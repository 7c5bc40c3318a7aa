import MiniJava.Proofs.Syntax.Sorts
import MiniJava.Proofs.Tree.EarlyExit
import MiniJava.Proofs.Tree.Parts
import MiniJava.Query

/-!
What a function gives for the nodes of a tree. It is gathered from a node and its parts, so for an
expression it is gathered from the subexpressions and for a statement from the substatements and
their expressions, as long as nothing is gathered from names and types. The declarations of a node
are the case of the function that is defined on declarations alone.
-/
namespace MiniJava

open Node MiniJava.Tree

theorem Node.select_tree {β : Type} (f : Node → Option β) (n : Node) :
    select f n.tree = (f n.unified).toList ++ n.parts.flatMap fun p => select f p.tree :=
  select_unfold tree_eq f n

/-! ## Expressions and statements -/

section Gathered

variable {β : Type}

theorem Expr.flatMap_parts {F : Node → List β} (hident : ∀ i, F (.ident i) = []) (e : Expr) :
    (partsOfExpr e).flatMap F = e.children.flatMap fun e => F (.expr e) := by
  cases e <;> simp [partsOfExpr, children, hident, List.flatMap_map]

/-- The expressions of a statement stand before its substatements. -/
theorem Stmt.flatMap_parts {F : Node → List β} (hident : ∀ i, F (.ident i) = [])
    (hty : ∀ t, F (.ty t) = []) (s : Stmt) :
    (partsOfStmt s).flatMap F =
      (s.exprs.flatMap fun e => F (.expr e)) ++ s.children.flatMap fun t => F (.stmt t) := by
  cases s <;> simp [partsOfStmt, partsOfVarDecl, exprs, children, hident, hty, List.flatMap_map]

variable {f : Node → Option β}

theorem Node.select_ident (hident : ∀ i, f (.ident i) = none) (i : Ident) :
    select f (Node.ident i).tree = [] := by
  rw [select_tree, unified, hident]
  · rfl
  · nofun

theorem Node.select_ty (hty : ∀ t, f (.ty t) = none) (t : Located Ty) :
    select f (Node.ty t).tree = [] := by
  rw [select_tree, unified, hty]
  · rfl
  · nofun

theorem Expr.select_exprTree (hident : ∀ i, f (.ident i) = none) (e : Located Expr) :
    select f (exprTree e) = select (fun e => f (.expr e)) (tree e) := by
  induction e using induct_unfold tree_eq with
  | step e ih =>
      have hparts : select f (exprTree e) =
          (f (.expr e)).toList ++ (partsOfExpr e.node).flatMap fun p => select f p.tree :=
        select_tree f (.expr e)
      rw [hparts, flatMap_parts (select_ident hident), select_unfold tree_eq]
      exact congrArg (_ ++ ·) (List.flatMap_congr ih)

theorem Stmt.select_stmtTree (hident : ∀ i, f (.ident i) = none) (hty : ∀ t, f (.ty t) = none)
    (s : Located Stmt) :
    select f (stmtTree s) = (tree s).preorder.flatMap fun t =>
      (f (ofStmt t.node t.span)).toList ++ t.node.exprs.flatMap fun e => select f (exprTree e) := by
  induction s using induct_unfold tree_eq with
  | step s ih =>
      have hparts : select f (stmtTree s) = (f (ofStmt s.node s.span)).toList ++
          (partsOfStmt s.node).flatMap fun p => select f p.tree :=
        select_tree f (.stmt s)
      rw [hparts, flatMap_parts (select_ident hident) (select_ty hty), preorder_unfold tree_eq,
        List.flatMap_cons, List.append_assoc, List.flatMap_assoc]
      exact congrArg (fun rest => _ ++ (_ ++ rest)) (List.flatMap_congr ih)

end Gathered

/-! ## Declarations -/

def Stmt.decl? : Stmt → Option VarDecl
  | .varDecl decl => some decl
  | _ => none

namespace Node

def varDecl? : Node → Option VarDecl
  | .varDecl d => some d.node
  | _ => none

/-- The declarations of the node in source order. A declaration statement and its declaration have
the same span. -/
def locatedDecls (n : Node) : List (Located VarDecl) := select field? n.tree

theorem locatedDecls_eq (n : Node) :
    n.locatedDecls = n.unified.field?.toList ++ n.parts.flatMap locatedDecls :=
  select_tree field? n

@[simp] theorem locatedDecls_ident (i : Ident) : (Node.ident i).locatedDecls = [] := rfl

@[simp] theorem locatedDecls_ty (t : Located Ty) : (Node.ty t).locatedDecls = [] := rfl

@[simp] theorem locatedDecls_formal (f : Located Formal) : (Node.formal f).locatedDecls = [] := rfl

@[simp] theorem locatedDecls_expr (e : Located Expr) : (Node.expr e).locatedDecls = [] := by
  have hexprs : select field? (exprTree e) = select (fun _ => none) (Expr.tree e) :=
    Expr.select_exprTree (fun _ => rfl) e
  rw [locatedDecls, tree, hexprs, select, List.filterMap_eq_nil_iff]
  exact fun _ _ => rfl

@[simp] theorem locatedDecls_varDecl (d : Located VarDecl) :
    (Node.varDecl d).locatedDecls = [d] := by
  rw [locatedDecls_eq]
  simp [unified, field?, parts, partsOfVarDecl, List.flatMap_map]

theorem locatedDecls_stmt (s : Located Stmt) : (Node.stmt s).locatedDecls =
    (s.node.decl?.map (⟨·, s.span⟩)).toList ++
      s.node.children.flatMap fun t => (Node.stmt t).locatedDecls := by
  have hown : (Node.stmt s).unified.field? = s.node.decl?.map (⟨·, s.span⟩) := by
    obtain ⟨s, span⟩ := s
    cases s <;> rfl
  rw [locatedDecls_eq, hown, parts, Stmt.flatMap_parts locatedDecls_ident locatedDecls_ty]
  simp

theorem locatedDecls_methodDecl (m : Located MethodDecl) : (Node.methodDecl m).locatedDecls =
    m.node.body.flatMap fun s => (Node.stmt s).locatedDecls := by
  rw [locatedDecls_eq]
  simp [unified, field?, parts, List.flatMap_map]

theorem locatedDecls_classDecl (c : Located ClassDecl) : (Node.classDecl c).locatedDecls =
    c.node.fields ++ c.node.methods.flatMap fun m => (Node.methodDecl m).locatedDecls := by
  rw [locatedDecls_eq]
  simp [unified, field?, parts, List.flatMap_map]

theorem locatedDecls_mainClass (c : Located MainClass) :
    (Node.mainClass c).locatedDecls = (Node.stmt c.node.body).locatedDecls := by
  rw [locatedDecls_eq]
  simp [unified, field?, parts]

theorem locatedDecls_program (p : Located Program) : (Node.program p).locatedDecls =
    (Node.stmt p.node.mainClass.node.body).locatedDecls ++
      p.node.classes.flatMap fun c => (Node.classDecl c).locatedDecls := by
  rw [locatedDecls_eq]
  simp [unified, field?, parts, List.flatMap_map, locatedDecls_mainClass]

theorem select_varDecl? (n : Node) : select varDecl? n.tree = n.locatedDecls.map Located.node := by
  have hsort : varDecl? = fun n => n.field?.map Located.node := by
    funext n
    cases n <;> rfl
  rw [locatedDecls, select, select, List.map_filterMap, hsort]

end Node

namespace Stmt

theorem varDeclsList_eq_flatMap (ss : List (Located Stmt)) :
    varDeclsList ss = ss.flatMap (·.node.varDecls) := by
  induction ss with
  | nil => rfl
  | cons s ss ih => rw [varDeclsList, ih, List.flatMap_cons]

theorem varDecls_eq (s : Stmt) :
    s.varDecls = s.decl?.toList ++ s.children.flatMap (·.node.varDecls) := by
  cases s <;> simp [varDecls, decl?, children, varDeclsList_eq_flatMap]

theorem varDecls_eq_select (s : Located Stmt) :
    s.node.varDecls = select (·.node.decl?) (tree s) := by
  induction s using induct_unfold tree_eq with
  | step s ih =>
      rw [varDecls_eq, select_unfold tree_eq]
      exact congrArg (_ ++ ·) (List.flatMap_congr ih)

theorem varDecls_eq_map (s : Located Stmt) :
    s.node.varDecls = (Node.stmt s).locatedDecls.map Located.node := by
  induction s using induct_unfold tree_eq with
  | step s ih =>
      rw [varDecls_eq, locatedDecls_stmt, List.map_append, List.map_flatMap]
      have hown : s.node.decl?.toList =
          (s.node.decl?.map (Located.mk · s.span)).toList.map Located.node := by
        cases s.node.decl? <;> rfl
      rw [← hown]
      exact congrArg (_ ++ ·) (List.flatMap_congr ih)

end Stmt

theorem ClassDecl.varDecls_eq_map (c : Located ClassDecl) :
    c.node.varDecls = (Node.classDecl c).locatedDecls.map Located.node := by
  simp [varDecls, locatedDecls_classDecl, locatedDecls_methodDecl, List.map_flatMap,
    Stmt.varDeclsList_eq_flatMap, Stmt.varDecls_eq_map]

theorem Program.varDecls_eq_map (p : Located Program) :
    p.node.varDecls = (Node.program p).locatedDecls.map Located.node := by
  simp [varDecls, locatedDecls_program, List.map_flatMap, ClassDecl.varDecls_eq_map,
    Stmt.varDecls_eq_map]

end MiniJava
