import MiniJava.Syntax.Node

/-!
The sorts of syntax that a node can be, as partial functions from nodes.
-/
namespace MiniJava.Node

def classDecl? : Node → Option (Located ClassDecl)
  | .classDecl c => some c
  | _ => none

def field? : Node → Option (Located VarDecl)
  | .varDecl d => some d
  | _ => none

def methodDecl? : Node → Option (Located MethodDecl)
  | .methodDecl m => some m
  | _ => none

def formal? : Node → Option (Located Formal)
  | .formal f => some f
  | _ => none

/-- A declaration stands for the statement made of it. -/
def stmt? : Node → Option (Located Stmt)
  | .stmt s => some s
  | .varDecl d => some ⟨.varDecl d.node, d.span⟩
  | _ => none

def expr? : Node → Option (Located Expr)
  | .expr e => some e
  | _ => none

def ident? : Node → Option Ident
  | .ident i => some i
  | _ => none

theorem filterMap_map_self {α : Type} {f : α → Node} {p : Node → Option α}
    (h : ∀ a, p (f a) = some a) (as : List α) : (as.map f).filterMap p = as := by
  rw [List.filterMap_map, show p ∘ f = some from funext h, List.filterMap_some]

theorem filterMap_map_other {α β : Type} {f : α → Node} {p : Node → Option β}
    (h : ∀ a, p (f a) = none) (as : List α) : (as.map f).filterMap p = [] := by
  induction as with
  | nil => rfl
  | cons a as ih => rw [List.map_cons, List.filterMap_cons_none (h a), ih]

end MiniJava.Node
