import Mathlib.Algebra.GroupWithZero.Nat
import Mathlib.Data.List.Infix
import MiniJava.Proofs.Tree.Selection
import MiniJava.Tally

/-!
Three ways to count declarations: a tally that goes through the tree, the list of the declarations
of a program, and a search for the declaration statements of a statement. A visit adds to a tally
what the node declares, one declaration after the other, and so the same as if the tally were new.
-/
namespace MiniJava

/-! ## The declarations of a node -/

/-- The variable declarations of the node in source order. -/
def Node.varDecls : Node → List VarDecl
  | .program p => p.node.varDecls
  | .mainClass c => c.node.body.node.varDecls
  | .classDecl c => c.node.varDecls
  | .varDecl d => [d.node]
  | .methodDecl m => Stmt.varDeclsList m.node.body
  | .stmt s => s.node.varDecls
  | .formal _ | .ty _ | .expr _ | .ident _ => []

namespace Tally

mutual

theorem stmt_eq_foldl : (s : Stmt) → (t : Tally) → t.stmt s = s.varDecls.foldl declare t
  | .block body, t => by rw [stmt, Stmt.varDecls, stmts_eq_foldl body]
  | .ifThen _ ⟨s, _⟩, t => by rw [stmt, Stmt.varDecls, stmt_eq_foldl s]
  | .ifElse _ ⟨s, _⟩ ⟨e, _⟩, t => by
      rw [stmt, Stmt.varDecls, List.foldl_append, stmt_eq_foldl s, stmt_eq_foldl e]
  | .loop _ ⟨body, _⟩, t => by rw [stmt, Stmt.varDecls, stmt_eq_foldl body]
  | .varDecl decl, t => by rw [stmt, Stmt.varDecls]; rfl
  | .print _, t => by rw [stmt, Stmt.varDecls]; rfl
  | .assign _ _, t => by rw [stmt, Stmt.varDecls]; rfl
  | .arrayAssign _ _ _, t => by rw [stmt, Stmt.varDecls]; rfl

theorem stmts_eq_foldl : (ss : List (Located Stmt)) → (t : Tally) →
    t.stmts ss = (Stmt.varDeclsList ss).foldl declare t
  | [], t => by rw [stmts, Stmt.varDeclsList]; rfl
  | ⟨s, _⟩ :: ss, t => by
      rw [stmts, Stmt.varDeclsList, List.foldl_append, stmt_eq_foldl s, stmts_eq_foldl ss]

end

theorem classDecl_eq_foldl (c : ClassDecl) (t : Tally) :
    t.classDecl c = c.varDecls.foldl declare t := by
  rw [classDecl, ClassDecl.varDecls, List.foldl_append, List.foldl_map, List.foldl_flatMap]
  simp only [method, stmts_eq_foldl]

theorem program_eq_foldl (p : Program) (t : Tally) : t.program p = p.varDecls.foldl declare t := by
  rw [program, Program.varDecls, List.foldl_append, List.foldl_flatMap, mainClass, stmt_eq_foldl]
  simp only [classDecl_eq_foldl]

/-- A visit counts the declarations of the node one after the other. -/
theorem visit_eq_foldl (n : Node) (t : Tally) : t.visit n = n.varDecls.foldl declare t := by
  cases n with
  | program p => exact program_eq_foldl p.node t
  | mainClass c => exact stmt_eq_foldl c.node.body.node t
  | classDecl c => exact classDecl_eq_foldl c.node t
  | methodDecl m => exact stmts_eq_foldl m.node.body t
  | stmt s => exact stmt_eq_foldl s.node t
  | _ => rfl

/-! ## Sums -/

theorem foldl_declare (ds : List VarDecl) (t : Tally) :
    ds.foldl declare t =
      ⟨t.declarations + ds.length, t.names + (ds.map (·.names.length)).sum⟩ := by
  induction ds generalizing t with
  | nil => rfl
  | cons d ds ih =>
      simp only [List.foldl_cons, ih, declare, List.length_cons, List.map_cons, List.sum_cons,
        VarDecl.names, List.length_map, Tally.mk.injEq]
      omega

theorem tally_eq (n : Node) :
    n.tally = ⟨n.varDecls.length, (n.varDecls.map (·.names.length)).sum⟩ := by
  rw [Node.tally, visit_eq_foldl, foldl_declare, Nat.zero_add, Nat.zero_add]

/-- What is counted before a visit has no part in what the visit adds. -/
theorem visit_eq_add (n : Node) (t : Tally) :
    t.visit n = ⟨t.declarations + n.tally.declarations, t.names + n.tally.names⟩ := by
  rw [visit_eq_foldl, foldl_declare, tally_eq]

/-- The sums of what the nodes count to by themselves. -/
def total (ns : List Node) : Tally where
  declarations := (ns.map (·.tally.declarations)).sum
  names := (ns.map (·.tally.names)).sum

theorem scanl_visit (ns : List Node) (t : Tally) :
    ns.scanl visit t = ns.inits.map fun seen =>
      ⟨t.declarations + (total seen).declarations, t.names + (total seen).names⟩ := by
  induction ns generalizing t with
  | nil => rfl
  | cons n ns ih =>
      rw [List.scanl_cons, ih, visit_eq_add, List.inits_cons, List.map_cons, List.map_map]
      simp only [total, Function.comp_def, List.map_cons, List.sum_cons, Nat.add_assoc]
      rfl

end Tally

/-! ## Declaration statements -/

namespace Stmt

open MiniJava.Tree

def isVarDecl (s : Stmt) : Bool := s.decl?.isSome

/-- Each declaration of a statement is in one of the declaration statements found in it. -/
theorem length_find_isVarDecl (s : Located Stmt) :
    ((tree s).find (·.node.isVarDecl)).length = s.node.varDecls.length := by
  rw [find_eq_filter, varDecls_eq_select, select, List.length_filterMap_eq_countP,
    List.countP_eq_length_filter]
  rfl

end Stmt

/-! ## Agreement -/

/-- The tally of a program is that of the list of its declarations; that of a statement is the number
of declaration statements found in it; and one tally that visits any nodes one after the other shows
at each point the sums of what the nodes so far count to by themselves. -/
theorem Tally.counts_agree :
    (∀ p : Located Program, (Node.program p).tally =
      ⟨p.node.varDecls.length, (p.node.varDecls.map (·.names.length)).sum⟩) ∧
    (∀ s : Located Stmt,
      (Node.stmt s).tally.declarations = ((Stmt.tree s).find (·.node.isVarDecl)).length) ∧
    ∀ ns : List Node, ns.scanl Tally.visit {} = ns.inits.map Tally.total := by
  refine ⟨fun p => tally_eq (.program p), ?_, ?_⟩
  · intro s
    rw [tally_eq, Stmt.length_find_isVarDecl]
    rfl
  · intro ns
    rw [scanl_visit]
    simp only [Nat.zero_add]

end MiniJava
