import MiniJava.Position

/-!
Names, types and expressions. The binary operators share one constructor, so that all they differ
in is what `BinaryOp` says: symbol and binding strength.
-/
namespace MiniJava

/-- A name at the place where it is declared or referred to. -/
abbrev Ident := Located String

/-- The types a declaration can give; a class is referred to by its name. -/
inductive Ty where
  | intArray
  | boolean
  | integer
  | named (name : String)
  deriving DecidableEq

def Ty.text : Ty → String
  | .intArray => "int[]"
  | .boolean => "boolean"
  | .integer => "int"
  | .named name => name

inductive BinaryOp where
  | and
  | lessThan
  | plus
  | minus
  | times
  deriving DecidableEq

namespace BinaryOp

def name : BinaryOp → String
  | .and => "And"
  | .lessThan => "LessThan"
  | .plus => "Plus"
  | .minus => "Minus"
  | .times => "Times"

def symbol : BinaryOp → String
  | .and => "&&"
  | .lessThan => "<"
  | .plus => "+"
  | .minus => "-"
  | .times => "*"

/-- Binding strength, tighter when higher; every operator associates to the left. -/
def precedence : BinaryOp → Nat
  | .and => 1
  | .lessThan => 2
  | .plus => 3
  | .minus => 3
  | .times => 4

end BinaryOp

/-- An expression. Every operand carries its own span; the span of the whole is outside. -/
inductive Expr where
  | binary (op : BinaryOp) (left right : Located Expr)
  | lookup (array index : Located Expr)
  | length (array : Located Expr)
  | call (receiver : Located Expr) (method : Ident) (args : List (Located Expr))
  | int (value : Int64)
  | bool (value : Bool)
  | var (name : String)
  | this
  | newArray (size : Located Expr)
  | newObject (className : Ident)
  | not (operand : Located Expr)

namespace Expr

/-- Binding strength of `!e` and `new int[e]`. -/
def unaryPrecedence : Nat := 5

/-- Binding strength of indexing, `.length` and calls. -/
def postfixPrecedence : Nat := 6

/-- Binding strength of an expression that never needs parentheses. -/
def atomPrecedence : Nat := 7

/-- Binding strength of the outermost construct, tighter when higher. -/
def precedence : Expr → Nat
  | .binary op _ _ => op.precedence
  | .not _ | .newArray _ => unaryPrecedence
  | .lookup _ _ | .length _ | .call _ _ _ => postfixPrecedence
  | .int _ | .bool _ | .var _ | .this | .newObject _ => atomPrecedence

def binaryOp? : Expr → Option BinaryOp
  | .binary op _ _ => some op
  | _ => none

def children : Expr → List (Located Expr)
  | .binary _ left right => [left, right]
  | .lookup array index => [array, index]
  | .length array => [array]
  | .call receiver _ args => receiver :: args
  | .newArray size => [size]
  | .not operand => [operand]
  | .int _ | .bool _ | .var _ | .this | .newObject _ => []

mutual

/-- Equality of the whole tree, spans included. -/
def beq : Expr → Expr → Bool
  | .binary op ⟨l, s⟩ ⟨r, t⟩, .binary op' ⟨l', s'⟩ ⟨r', t'⟩ =>
    op == op' && (beq l l' && s == s') && (beq r r' && t == t')
  | .lookup ⟨a, s⟩ ⟨i, t⟩, .lookup ⟨a', s'⟩ ⟨i', t'⟩ =>
    (beq a a' && s == s') && (beq i i' && t == t')
  | .length ⟨a, s⟩, .length ⟨a', s'⟩ => beq a a' && s == s'
  | .call ⟨r, s⟩ m args, .call ⟨r', s'⟩ m' args' =>
    (beq r r' && s == s') && m == m' && beqList args args'
  | .int n, .int n' => n == n'
  | .bool b, .bool b' => b == b'
  | .var x, .var x' => x == x'
  | .this, .this => true
  | .newArray ⟨n, s⟩, .newArray ⟨n', s'⟩ => beq n n' && s == s'
  | .newObject c, .newObject c' => c == c'
  | .not ⟨e, s⟩, .not ⟨e', s'⟩ => beq e e' && s == s'
  | _, _ => false

def beqList : List (Located Expr) → List (Located Expr) → Bool
  | [], [] => true
  | ⟨e, s⟩ :: es, ⟨e', s'⟩ :: es' => (beq e e' && s == s') && beqList es es'
  | _, _ => false

end

instance : BEq Expr := ⟨beq⟩

mutual

theorem eq_of_beq : {a b : Expr} → beq a b = true → a = b
  | .binary _ ⟨_, _⟩ ⟨_, _⟩, b, h => by
    cases b <;> simp [beq] at h
    next op l r => cases l; cases r; simp_all [eq_of_beq h.1.2.1, eq_of_beq h.2.1]
  | .lookup ⟨_, _⟩ ⟨_, _⟩, b, h => by
    cases b <;> simp [beq] at h
    next a i => cases a; cases i; simp_all [eq_of_beq h.1.1, eq_of_beq h.2.1]
  | .length ⟨_, _⟩, b, h => by
    cases b <;> simp [beq] at h
    next a => cases a; simp_all [eq_of_beq h.1]
  | .call ⟨_, _⟩ _ _, b, h => by
    cases b <;> simp [beq] at h
    next r m args => cases r; simp_all [eq_of_beq h.1.1.1, eq_of_beqList h.2]
  | .int _, b, h => by cases b <;> simp_all [beq]
  | .bool _, b, h => by cases b <;> simp_all [beq]
  | .var _, b, h => by cases b <;> simp_all [beq]
  | .this, b, h => by cases b <;> simp_all [beq]
  | .newArray ⟨_, _⟩, b, h => by
    cases b <;> simp [beq] at h
    next n => cases n; simp_all [eq_of_beq h.1]
  | .newObject _, b, h => by cases b <;> simp_all [beq]
  | .not ⟨_, _⟩, b, h => by
    cases b <;> simp [beq] at h
    next e => cases e; simp_all [eq_of_beq h.1]

theorem eq_of_beqList : {as bs : List (Located Expr)} → beqList as bs = true → as = bs
  | [], bs, h => by cases bs <;> simp_all [beqList]
  | ⟨_, _⟩ :: _, bs, h => by
    cases bs with
    | nil => simp [beqList] at h
    | cons b bs => cases b; simp [beqList] at h; simp_all [eq_of_beq h.1.1, eq_of_beqList h.2]

end

mutual

theorem beq_refl : (a : Expr) → beq a a = true
  | .binary _ ⟨l, _⟩ ⟨r, _⟩ => by simp [beq, beq_refl l, beq_refl r]
  | .lookup ⟨a, _⟩ ⟨i, _⟩ => by simp [beq, beq_refl a, beq_refl i]
  | .length ⟨a, _⟩ => by simp [beq, beq_refl a]
  | .call ⟨r, _⟩ _ args => by simp [beq, beq_refl r, beqList_refl args]
  | .int _ => by simp [beq]
  | .bool _ => by simp [beq]
  | .var _ => by simp [beq]
  | .this => by simp [beq]
  | .newArray ⟨n, _⟩ => by simp [beq, beq_refl n]
  | .newObject _ => by simp [beq]
  | .not ⟨e, _⟩ => by simp [beq, beq_refl e]

theorem beqList_refl : (as : List (Located Expr)) → beqList as as = true
  | [] => by simp [beqList]
  | ⟨e, _⟩ :: es => by simp [beqList, beq_refl e, beqList_refl es]

end

instance : LawfulBEq Expr where
  eq_of_beq := eq_of_beq
  rfl := beq_refl _

instance : DecidableEq Expr := instDecidableEqOfLawfulBEq

end Expr

end MiniJava
