import MiniJava.Proofs.Grammar.Token
import MiniJava.Proofs.Syntax.Spans

/-!
The grammar of expressions. Levels 1 to 4 are the binary operators, left-associative, level 5 holds
`!` and `new int[…]`, level 6 what is put after an expression, and level 7 what stands by itself.
-/
namespace MiniJava

namespace BinaryOp

def level : BinaryOp → Nat
  | .and => 1
  | .lessThan => 2
  | .plus | .minus => 3
  | .times => 4

def sign : BinaryOp → Symbol
  | .and => .and
  | .lessThan => .lessThan
  | .plus => .plus
  | .minus => .minus
  | .times => .times

def ofToken? : Token → Option BinaryOp
  | .symbol .and => some .and
  | .symbol .lessThan => some .lessThan
  | .symbol .plus => some .plus
  | .symbol .minus => some .minus
  | .symbol .times => some .times
  | _ => none

@[simp] theorem ofToken?_sign (op : BinaryOp) : ofToken? (.symbol op.sign) = some op := by
  cases op <;> rfl

theorem eq_of_ofToken? {t : Token} {op : BinaryOp} (h : ofToken? t = some op) :
    t = .symbol op.sign := by
  unfold ofToken? at h
  split at h <;> cases h <;> rfl

theorem level_pos (op : BinaryOp) : 1 ≤ op.level := by cases op <;> decide

theorem level_le (op : BinaryOp) : op.level ≤ 4 := by cases op <;> decide

end BinaryOp

def Keyword.ofBool : Bool → Keyword
  | true => .trueLiteral
  | false => .falseLiteral

namespace Expr

mutual

/-- The tokens are the expression, in a place that demands the level. Spans are left open. -/
inductive Derives : Nat → List Token → Expr → Prop where
  | binary {ts us l r s t} (op : BinaryOp) :
      Derives op.level ts l → Derives (op.level + 1) us r →
      Derives op.level (ts ++ .symbol op.sign :: us) (.binary op ⟨l, s⟩ ⟨r, t⟩)
  | not {ts e s} : Derives 5 ts e → Derives 5 (.symbol .not :: ts) (.not ⟨e, s⟩)
  | newArray {ts e s} :
      Derives 1 ts e →
      Derives 5 (.keyword .new :: .keyword .int :: .symbol .leftBracket ::
        (ts ++ [.symbol .rightBracket])) (.newArray ⟨e, s⟩)
  | lookup {ts us a i s t} :
      Derives 6 ts a → Derives 1 us i →
      Derives 6 (ts ++ .symbol .leftBracket :: (us ++ [.symbol .rightBracket]))
        (.lookup ⟨a, s⟩ ⟨i, t⟩)
  | length {ts a s} :
      Derives 6 ts a → Derives 6 (ts ++ [.symbol .dot, .keyword .length]) (.length ⟨a, s⟩)
  | call {ts us r s args} (method : Ident) :
      Derives 6 ts r → DerivesArgs us args →
      Derives 6 (ts ++ .symbol .dot :: .name method.node :: .symbol .leftParen ::
        (us ++ [.symbol .rightParen])) (.call ⟨r, s⟩ method args)
  | int (value : Int64) : Derives 7 [.int value.toInt] (.int value)
  | bool (value : Bool) : Derives 7 [.keyword (.ofBool value)] (.bool value)
  | this : Derives 7 [.keyword .self] .this
  | var (name : String) : Derives 7 [.name name] (.var name)
  | newObject (className : Ident) :
      Derives 7 [.keyword .new, .name className.node, .symbol .leftParen, .symbol .rightParen]
        (.newObject className)
  | parens {ts e} :
      Derives 1 ts e → Derives 7 (.symbol .leftParen :: (ts ++ [.symbol .rightParen])) e
  /-- What is tighter than demanded may stand there as well. -/
  | tighter {n ts e} : n < 7 → Derives (n + 1) ts e → Derives n ts e

inductive DerivesArgs : List Token → List (Located Expr) → Prop where
  | nil : DerivesArgs [] []
  | single {ts e s} : Derives 1 ts e → DerivesArgs ts [⟨e, s⟩]
  | cons {ts us e s next args} :
      Derives 1 ts e → DerivesArgs us (next :: args) →
      DerivesArgs (ts ++ .symbol .comma :: us) (⟨e, s⟩ :: next :: args)

end

variable {n : Nat} {ts : List Token} {e : Expr}

/-- A place that demands less takes whatever one that demands more does. -/
theorem Derives.mono {m : Nat} (h : Derives n ts e) (hn : n ≤ 7) (hm : m ≤ n) :
    Derives m ts e := by
  induction hm with
  | refl => exact h
  | step hm ih => exact ih (.tighter hn h) (Nat.le_of_lt hn)

/-- What the tokens of an expression of the level can start with, whatever comes after them. -/
def opens (n : Nat) : List Token → Bool
  | [] => false
  | .symbol .rightParen :: _ => false
  | .symbol .not :: _ => n ≤ 5
  | .keyword .new :: .keyword .int :: _ => n ≤ 5
  | _ => true

theorem opens_of_le {m : Nat} (hm : m ≤ n) {ts : List Token} (h : opens n ts = true) :
    opens m ts = true := by
  unfold opens at h ⊢
  split <;> simp_all
  all_goals omega

theorem Derives.opens {n : Nat} {ts : List Token} {e : Expr} :
    Derives n ts e → ∀ rest, opens n (ts ++ rest) = true
  | .binary op hl _, rest => by
      rw [List.append_assoc]
      exact hl.opens _
  | .not _, _ => rfl
  | .newArray _, _ => rfl
  | .lookup ha _, rest | .length ha, rest | .call _ ha _, rest => by
      rw [List.append_assoc]
      exact ha.opens _
  | .int _, _ | .bool true, _ | .bool false, _ | .this, _ | .var _, _ | .newObject _, _
  | .parens _, _ => rfl
  | .tighter _ h, rest => opens_of_le (Nat.le_succ _) (h.opens rest)

theorem Derives.ne_nil (h : Derives n ts e) : ts ≠ [] := by
  rintro rfl
  have hopens := h.opens []
  simp [Expr.opens] at hopens

theorem DerivesArgs.opens {next : Located Expr} {args : List (Located Expr)}
    (h : DerivesArgs ts (next :: args)) (rest : List Token) : opens 1 (ts ++ rest) = true := by
  cases h with
  | single he => exact he.opens rest
  | cons he _ =>
      rw [List.append_assoc]
      exact he.opens _

end Expr

end MiniJava
