import MiniJava.Proofs.Outline.Lines
import MiniJava.Proofs.Transform.Hooks
import MiniJava.Proofs.Tree.Selection

/-!
All traversals go through a tree in the same order: the hooks of a transformation, the lines of an
outline, the walk of the expressions of a statement, and the list of the declarations of a program.
What they share is the preorder of the node's tree; the hooks differ from it only in that a
declaration statement calls a hook before the one of its declaration.
-/
namespace MiniJava

open MiniJava.Tree

namespace Node

/-- The nodes that hooks are called with when every hook logs its node and rebuilds it, in order. -/
def reached (n : Node) : List Node :=
  ((Transform.logged (fun _ => false) "").onNode n #[]).2.toList

theorem reached_eq_preorder (n : Node) : n.reached = n.calls.preorder := by
  have h : n.reached = [] ++ n.calls.preorderUpTo (fun _ => false) := by
    rw [reached, ← Transform.logging_suffix]
    exact Transform.onNode_logs n #[]
  rw [h, List.nil_append, preorderUpTo_never]

theorem expr?_isDeclStmt (n : Node) (h : n.isDeclStmt) : n.expr? = none := by
  obtain ⟨d, rfl⟩ := exists_eq_varDecl h
  rfl

theorem varDecl?_isDeclStmt (n : Node) (h : n.isDeclStmt) : n.varDecl? = none := by
  obtain ⟨d, rfl⟩ := exists_eq_varDecl h
  rfl

/-! ## Calls and nodes -/

/-- Without the declaration statements, the calls are the nodes of the tree. -/
theorem filter_calls (n : Node) :
    (n.calls.preorder.filter fun n => !n.isDeclStmt) = n.tree.preorder := by
  induction n using induct_callParts with
  | step n ih =>
      rw [preorder_unfold calls_eq, List.filter_cons, List.filter_flatMap, List.flatMap_congr ih]
      cases hn : n.isDeclStmt with
      | true =>
          -- Of a declaration statement and its declaration, only one is kept.
          obtain ⟨d, rfl⟩ := exists_eq_varDecl hn
          rw [tree_declStmt]
          exact List.flatMap_singleton ..
      | false =>
          rw [callParts_eq_parts hn, preorder_unfold tree_eq, unified_eq_self hn]
          rfl

theorem filter_reached (n : Node) :
    (n.reached.filter fun n => !n.isDeclStmt) = n.tree.preorder := by
  rw [reached_eq_preorder, filter_calls]

/-- What is asked of no declaration statement can be asked of the tree. -/
theorem filterMap_reached {α : Type} {f : Node → Option α}
    (h : ∀ n : Node, n.isDeclStmt → f n = none) (n : Node) :
    n.reached.filterMap f = select f n.tree := by
  rw [select, ← filter_reached, List.filterMap_filter]
  congr 1
  funext n
  cases hn : n.isDeclStmt with
  | true => exact h n hn
  | false => rfl

end Node

open Node

/-- The expressions in the tree of a statement are those that a walk of its expressions goes
through. -/
theorem Stmt.select_expr? (s : Located Stmt) : select expr? (stmtTree s) = exprPreorder s := by
  have hexpr (e : Located Expr) : select expr? (exprTree e) = (Expr.tree e).preorder := by
    rw [Expr.select_exprTree fun _ => rfl]
    exact List.filterMap_some
  have hown (t : Located Stmt) : expr? (ofStmt t.node t.span) = none := by
    obtain ⟨t, span⟩ := t
    cases t <;> rfl
  rw [select_stmtTree (fun _ => rfl) (fun _ => rfl), exprPreorder]
  simp only [hown, hexpr, Option.toList_none, List.nil_append]

/-! ## The order of all traversals -/

/-- A closure that never fails goes through the expressions one after the other. -/
theorem forM_modify {σ ε α : Type} (f : α → σ → σ) (as : List α) (state : σ) :
    (as.forM fun a => modify (f a) : EStateM ε σ Unit) state =
      .ok () (as.foldl (fun state a => f a state) state) := by
  induction as generalizing state with
  | nil => rfl
  | cons a as ih => exact ih (f a state)

/-- All traversals go through a tree in the same order. Without the declaration statements, the
hooks are called for the nodes of the tree as the outline lists them, a line for each; a walk of the
expressions of a statement is given those that the hook for expressions is called with, whatever it
does with them unless it fails; and the declarations of a program are those that the hook for
declarations is called with. -/
theorem traversals_agree :
    (∀ n : Node, (n.reached.filter fun n => !n.isDeclStmt) = (n.tree.levels 0).map Prod.snd ∧
      ∀ showLocations, Outline.lines showLocations n.tree =
        (n.tree.levels 0).map fun l => .code l.1 (Outline.entry showLocations l.2)) ∧
    (∀ (s : Located Stmt) {σ ε : Type} (f : Located Expr → σ → σ) (state : σ),
      (s.node.walkExprs fun e => modify (f e) : EStateM ε σ Unit) state =
        .ok () (((Node.stmt s).reached.filterMap expr?).foldl (fun state e => f e state) state)) ∧
    ∀ p : Located Program, p.node.varDecls = (Node.program p).reached.filterMap varDecl? := by
  refine ⟨fun n => ⟨?_, fun showLocations => Outline.lines_eq_map showLocations n.tree⟩, ?_, ?_⟩
  · rw [filter_reached, levels_map_snd]
  · intro s σ ε f state
    rw [filterMap_reached expr?_isDeclStmt, Stmt.walkExprs_eq_forM_exprPreorder, forM_modify]
    exact congrArg _ (congrArg _ (Stmt.select_expr? s).symm)
  · intro p
    rw [filterMap_reached varDecl?_isDeclStmt, select_varDecl?, Program.varDecls_eq_map]

end MiniJava
