import MiniJava.Syntax.Node

/-!
The braces that printing adds: a branch that would take the `else` after it for one of its own is
put into a block. Everything else in a tree stays as it is.
-/
namespace MiniJava

/-- The statement as the only one of a block. -/
def Located.inBlock (s : Located Stmt) : Located Stmt := ⟨.block [s], s.span⟩

namespace Stmt

mutual

/-- The statement with every branch in braces that ends in an open `if` and has an `else` after
it. -/
def norm : Stmt → Stmt
  | .block body => .block (normList body)
  | .ifThen c ⟨t, s⟩ => .ifThen c ⟨norm t, s⟩
  | .ifElse c ⟨t, s⟩ ⟨e, u⟩ =>
    .ifElse c (if t.endsInOpenIf then Located.inBlock ⟨norm t, s⟩ else ⟨norm t, s⟩) ⟨norm e, u⟩
  | .loop c ⟨body, s⟩ => .loop c ⟨norm body, s⟩
  | .print value => .print value
  | .assign target value => .assign target value
  | .arrayAssign target index value => .arrayAssign target index value
  | .varDecl decl => .varDecl decl

def normList : List (Located Stmt) → List (Located Stmt)
  | [] => []
  | ⟨s, span⟩ :: ss => ⟨norm s, span⟩ :: normList ss

end

end Stmt

def MethodDecl.norm (m : MethodDecl) : MethodDecl := { m with body := Stmt.normList m.body }

def ClassDecl.norm (c : ClassDecl) : ClassDecl :=
  { c with methods := c.methods.map (·.map MethodDecl.norm) }

def MainClass.norm (c : MainClass) : MainClass := { c with body := c.body.map Stmt.norm }

def Program.norm (p : Program) : Program where
  mainClass := p.mainClass.map MainClass.norm
  classes := p.classes.map (·.map ClassDecl.norm)

/-- The node with the braces that printing adds. -/
def Node.norm : Node → Node
  | .program p => .program (p.map Program.norm)
  | .mainClass c => .mainClass (c.map MainClass.norm)
  | .classDecl c => .classDecl (c.map ClassDecl.norm)
  | .methodDecl m => .methodDecl (m.map MethodDecl.norm)
  | .stmt s => .stmt (s.map Stmt.norm)
  | .varDecl d => .varDecl d
  | .formal f => .formal f
  | .ty t => .ty t
  | .expr e => .expr e
  | .ident i => .ident i

end MiniJava
