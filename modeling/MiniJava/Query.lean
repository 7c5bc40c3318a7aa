import MiniJava.Syntax.Program

/-!
Questions about a tree: the calls and variables of an expression, whether two expressions differ in
more than spans, and the variable declarations of a program.
-/
namespace MiniJava

namespace Expr

def containsCalls : Expr → Bool
  | .call _ _ _ => true
  | .binary _ ⟨l, _⟩ ⟨r, _⟩ => containsCalls l || containsCalls r
  | .lookup ⟨a, _⟩ ⟨i, _⟩ => containsCalls a || containsCalls i
  | .length ⟨a, _⟩ => containsCalls a
  | .newArray ⟨n, _⟩ => containsCalls n
  | .not ⟨e, _⟩ => containsCalls e
  | .int _ | .bool _ | .var _ | .this | .newObject _ => false

mutual

def countCalls : Expr → Nat
  | .call ⟨r, _⟩ _ args => 1 + (countCalls r + countCallsList args)
  | .binary _ ⟨l, _⟩ ⟨r, _⟩ => countCalls l + countCalls r
  | .lookup ⟨a, _⟩ ⟨i, _⟩ => countCalls a + countCalls i
  | .length ⟨a, _⟩ => countCalls a
  | .newArray ⟨n, _⟩ => countCalls n
  | .not ⟨e, _⟩ => countCalls e
  | .int _ | .bool _ | .var _ | .this | .newObject _ => 0

def countCallsList : List (Located Expr) → Nat
  | [] => 0
  | ⟨e, _⟩ :: es => countCalls e + countCallsList es

end

mutual

/-- Add the names of the expression's variables to those already seen, each once. -/
def gatherVars : Expr → List String → List String
  | .var name, seen => seen.insert name
  | .binary _ ⟨l, _⟩ ⟨r, _⟩, seen => gatherVars r (gatherVars l seen)
  | .lookup ⟨a, _⟩ ⟨i, _⟩, seen => gatherVars i (gatherVars a seen)
  | .length ⟨a, _⟩, seen => gatherVars a seen
  | .call ⟨r, _⟩ _ args, seen => gatherVarsList args (gatherVars r seen)
  | .newArray ⟨n, _⟩, seen => gatherVars n seen
  | .not ⟨e, _⟩, seen => gatherVars e seen
  | .int _, seen | .bool _, seen | .this, seen | .newObject _, seen => seen

def gatherVarsList : List (Located Expr) → List String → List String
  | [], seen => seen
  | ⟨e, _⟩ :: es, seen => gatherVarsList es (gatherVars e seen)

end

/-- The names of the variables in the expression, each once, in code point order. -/
def vars (e : Expr) : List String :=
  (gatherVars e []).mergeSort fun a b => decide (a ≤ b)

mutual

/-- The expressions are built alike: same constructs, operators, literals and names, whatever the
spans. -/
def sameShape : Expr → Expr → Bool
  | .binary op ⟨l, _⟩ ⟨r, _⟩, .binary op' ⟨l', _⟩ ⟨r', _⟩ =>
    op == op' && sameShape l l' && sameShape r r'
  | .lookup ⟨a, _⟩ ⟨i, _⟩, .lookup ⟨a', _⟩ ⟨i', _⟩ => sameShape a a' && sameShape i i'
  | .length ⟨a, _⟩, .length ⟨a', _⟩ => sameShape a a'
  | .call ⟨r, _⟩ m args, .call ⟨r', _⟩ m' args' =>
    m.node == m'.node && sameShape r r' && sameShapeList args args'
  | .int n, .int n' => n == n'
  | .bool b, .bool b' => b == b'
  | .var x, .var x' => x == x'
  | .this, .this => true
  | .newArray ⟨n, _⟩, .newArray ⟨n', _⟩ => sameShape n n'
  | .newObject c, .newObject c' => c.node == c'.node
  | .not ⟨e, _⟩, .not ⟨e', _⟩ => sameShape e e'
  | _, _ => false

def sameShapeList : List (Located Expr) → List (Located Expr) → Bool
  | [], [] => true
  | ⟨e, _⟩ :: es, ⟨e', _⟩ :: es' => sameShape e e' && sameShapeList es es'
  | _, _ => false

end

end Expr

namespace Stmt

mutual

/-- The declarations among the statement and its substatements, in source order. -/
def varDecls : Stmt → List VarDecl
  | .varDecl decl => [decl]
  | .block body => varDeclsList body
  | .ifThen _ ⟨t, _⟩ => varDecls t
  | .ifElse _ ⟨t, _⟩ ⟨e, _⟩ => varDecls t ++ varDecls e
  | .loop _ ⟨body, _⟩ => varDecls body
  | .print _ | .assign _ _ | .arrayAssign _ _ _ => []

def varDeclsList : List (Located Stmt) → List VarDecl
  | [] => []
  | ⟨s, _⟩ :: ss => varDecls s ++ varDeclsList ss

end

end Stmt

/-- The fields of a class, then the locals of its methods. -/
def ClassDecl.varDecls (c : ClassDecl) : List VarDecl :=
  c.fields.map Located.node ++ c.methods.flatMap fun m => Stmt.varDeclsList m.node.body

/-- Every declaration of the program in source order, formal parameters aside. -/
def Program.varDecls (p : Program) : List VarDecl :=
  p.mainClass.node.body.node.varDecls ++ p.classes.flatMap (·.node.varDecls)

end MiniJava
