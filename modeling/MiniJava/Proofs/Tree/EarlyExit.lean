import MiniJava.Proofs.Tree.Calls
import MiniJava.Tree.Syntax

/-!
Walks of expressions and statements by an action that may fail. Each goes through its tree in a
fixed order up to the first failure; the walk of the expressions of a statement is the walk of its
statements, each with a walk of every expression that is its own.
-/
namespace MiniJava

open MiniJava.Tree

theorem Expr.treeList_eq_map (es : List (Located Expr)) : treeList es = es.map tree := by
  induction es with
  | nil => rfl
  | cons e es ih => rw [treeList, ih, List.map_cons]

/-- Below an expression are its operands and arguments from left to right. -/
theorem Expr.tree_eq (e : Located Expr) : tree e = .node e (e.node.children.map tree) := by
  obtain ⟨e, span⟩ := e
  cases e with
  | call receiver method args => rw [tree, subtrees, treeList_eq_map]; rfl
  | _ => rfl

theorem Stmt.treeList_eq_map (ss : List (Located Stmt)) : treeList ss = ss.map tree := by
  induction ss with
  | nil => rfl
  | cons s ss ih => rw [treeList, ih, List.map_cons]

/-- Below a statement are the statements that it is made of in source order. -/
theorem Stmt.tree_eq (s : Located Stmt) : tree s = .node s (s.node.children.map tree) := by
  obtain ⟨s, span⟩ := s
  cases s with
  | block body => rw [tree, subtrees, treeList_eq_map]; rfl
  | _ => rfl

/-- A walk of an expression or a statement calls its action with every subexpression or substatement
once, in preorder or in postorder, stops at the first call that fails, and gives that failure. -/
theorem walks_stop_at_first_error :
    (∀ e : Located Expr, Expr.tree e = .node e (e.node.children.map Expr.tree) ∧
      (Expr.tree e).WalkedInOrder) ∧
    ∀ s : Located Stmt, Stmt.tree s = .node s (s.node.children.map Stmt.tree) ∧
      (Stmt.tree s).WalkedInOrder :=
  ⟨fun e => ⟨Expr.tree_eq e, walkedInOrder (Expr.tree e)⟩,
    fun s => ⟨Stmt.tree_eq s, walkedInOrder (Stmt.tree s)⟩⟩

/-! ## The expressions of a statement -/

namespace Stmt

section

variable {m : Type → Type} [Monad m] (act : Located Expr → m Unit)

/-- Walk the expressions that are the statement's own. -/
def walkOwnExprs (s : Located Stmt) : m Unit := s.node.exprs.forM fun e => (Expr.tree e).walk act

mutual

theorem walkExprs_eq_walk [LawfulMonad m] (span : Span) : (s : Stmt) →
    s.walkExprs act = (tree ⟨s, span⟩).walk (walkOwnExprs act)
  | .block body => by
      simp [walkExprs, tree, subtrees, walk, walkOwnExprs, exprs, walkExprsList_eq_walkList body]
  | .ifThen c ⟨t, s⟩ => by
      simp [walkExprs, tree, subtrees, walk, walkList, walkOwnExprs, exprs, walkExprs_eq_walk s t]
  | .ifElse c ⟨t, s⟩ ⟨e, u⟩ => by
      simp [walkExprs, tree, subtrees, walk, walkList, walkOwnExprs, exprs, walkExprs_eq_walk s t,
        walkExprs_eq_walk u e]
  | .loop c ⟨body, s⟩ => by
      simp [walkExprs, tree, subtrees, walk, walkList, walkOwnExprs, exprs,
        walkExprs_eq_walk s body]
  | .print _ | .assign _ _ | .arrayAssign _ _ _ | .varDecl _ => by
      simp [walkExprs, tree, subtrees, walk, walkList, walkOwnExprs, exprs]

theorem walkExprsList_eq_walkList [LawfulMonad m] : (ss : List (Located Stmt)) →
    walkExprsList act ss = walkList (walkOwnExprs act) (treeList ss)
  | [] => by rw [walkExprsList, treeList, walkList]
  | ⟨s, span⟩ :: ss => by
      rw [walkExprsList, treeList, walkList, walkExprs_eq_walk span s, walkExprsList_eq_walkList ss]

end

/-- The expressions of a statement with their subexpressions, in the order that a walk has. -/
def exprPreorder (s : Located Stmt) : List (Located Expr) :=
  (tree s).preorder.flatMap fun t => t.node.exprs.flatMap fun e => (Expr.tree e).preorder

theorem walkExprs_eq_forM_exprPreorder [LawfulMonad m] (s : Located Stmt) :
    s.node.walkExprs act = (exprPreorder s).forM act := by
  rw [walkExprs_eq_walk act s.span s.node, walk_eq_forM, exprPreorder, forM_flatMap]
  congr 1
  funext t
  rw [walkOwnExprs, forM_flatMap]
  congr 1
  funext e
  exact walk_eq_forM act (Expr.tree e)

end

/-- To walk the expressions of a statement is to walk its statements and, at each, the expressions
that are its own. The action is called with all of them in this order up to the first call that
fails. -/
theorem walkExprs_walks_statements (s : Located Stmt) :
    (∀ (ε σ : Type) (act : Located Expr → EStateM ε σ Unit),
      s.node.walkExprs act =
        (tree s).walk fun t => t.node.exprs.forM fun e => (Expr.tree e).walk act) ∧
    StopsAtFirstError (fun _ _ act => s.node.walkExprs act) (exprPreorder s) :=
  ⟨fun _ _ act => walkExprs_eq_walk act s.span s.node,
    .of_forM fun _ _ act => walkExprs_eq_forM_exprPreorder act s⟩

end Stmt

end MiniJava
