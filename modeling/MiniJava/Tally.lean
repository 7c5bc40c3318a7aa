import MiniJava.Syntax.Node

/-!
Counting variable declarations. Declarations are fields and statements, so counting goes through
classes, methods and compound statements; formal parameters are not counted.
-/
namespace MiniJava

/-- Declarations met so far, and the names that they introduce. -/
structure Tally where
  declarations : Nat := 0
  names : Nat := 0
  deriving DecidableEq

namespace Tally

def declare (t : Tally) (d : VarDecl) : Tally :=
  ⟨t.declarations + 1, t.names + d.idents.length⟩

mutual

def stmt (t : Tally) : Stmt → Tally
  | .varDecl decl => t.declare decl
  | .block body => t.stmts body
  | .ifThen _ ⟨s, _⟩ => t.stmt s
  | .ifElse _ ⟨s, _⟩ ⟨e, _⟩ => (t.stmt s).stmt e
  | .loop _ ⟨body, _⟩ => t.stmt body
  | .print _ | .assign _ _ | .arrayAssign _ _ _ => t

def stmts (t : Tally) : List (Located Stmt) → Tally
  | [] => t
  | ⟨s, _⟩ :: ss => (t.stmt s).stmts ss

end

def method (t : Tally) (m : MethodDecl) : Tally := t.stmts m.body

def classDecl (t : Tally) (c : ClassDecl) : Tally :=
  c.methods.foldl (fun t m => t.method m.node) (c.fields.foldl (fun t d => t.declare d.node) t)

def mainClass (t : Tally) (c : MainClass) : Tally := t.stmt c.body.node

def program (t : Tally) (p : Program) : Tally :=
  p.classes.foldl (fun t c => t.classDecl c.node) (t.mainClass p.mainClass.node)

def visit (t : Tally) : Node → Tally
  | .program p => t.program p.node
  | .mainClass c => t.mainClass c.node
  | .classDecl c => t.classDecl c.node
  | .varDecl d => t.declare d.node
  | .methodDecl m => t.method m.node
  | .stmt s => t.stmt s.node
  | .formal _ | .ty _ | .expr _ | .ident _ => t

end Tally

def Node.tally (n : Node) : Tally := ({} : Tally).visit n

end MiniJava
