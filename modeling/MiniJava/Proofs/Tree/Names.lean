import MiniJava.Proofs.Syntax.Names
import MiniJava.Tree.Syntax

/-!
The names of a node, found in its tree: a condition on every name in the node is one on each node of
the tree that is itself a name.
-/
namespace MiniJava.Node

open MiniJava.Tree

/-- The name that the node itself is. -/
def name? : Node → Option String
  | .expr ⟨.var name, _⟩ => some name
  | .ty ⟨.named name, _⟩ => some name
  | .ident i => some i.node
  | _ => none

variable (ok : String → Prop)

def NameIs (n : Node) : Prop := ∀ name ∈ n.name?, ok name

/-- Every node of the tree that is a name satisfies the condition. -/
def TreeNames (t : Tree Node) : Prop := ∀ n ∈ t.preorder, n.NameIs ok

def TreesNames (ts : List (Tree Node)) : Prop := ∀ n ∈ preorderList ts, n.NameIs ok

variable {ok}

@[simp] theorem treeNames_node {n : Node} {parts : List (Tree Node)} :
    TreeNames ok (.node n parts) ↔ n.NameIs ok ∧ TreesNames ok parts := by
  rw [TreeNames, preorder, List.forall_mem_cons, TreesNames]

@[simp] theorem treesNames_nil : TreesNames ok [] := fun _ hn => absurd hn List.not_mem_nil

@[simp] theorem treesNames_cons {t : Tree Node} {ts : List (Tree Node)} :
    TreesNames ok (t :: ts) ↔ TreeNames ok t ∧ TreesNames ok ts := by
  rw [TreesNames, preorderList, List.forall_mem_append]
  rfl

@[simp] theorem treesNames_append {ts ts' : List (Tree Node)} :
    TreesNames ok (ts ++ ts') ↔ TreesNames ok ts ∧ TreesNames ok ts' := by
  induction ts with
  | nil => simp
  | cons t ts ih => simp [ih, and_assoc]

theorem treesNames_map {α : Type} {f : α → Tree Node} {as : List α} :
    TreesNames ok (as.map f) ↔ ∀ a ∈ as, TreeNames ok (f a) := by
  induction as with
  | nil => simp
  | cons a as ih => simp [ih]

@[simp] theorem treeNames_identTree {i : Ident} : TreeNames ok (identTree i) ↔ ok i.node := by
  simp [identTree, NameIs, name?]

@[simp] theorem treeNames_tyTree {t : Located Ty} :
    TreeNames ok (tyTree t) ↔ t.node.AllNames ok := by
  obtain ⟨t, span⟩ := t
  cases t <;> simp [tyTree, NameIs, name?, Ty.AllNames]

mutual

theorem treeNames_exprTree : (e : Located Expr) →
    (TreeNames ok (exprTree e) ↔ e.node.AllNames ok)
  | ⟨e, span⟩ => by
      rw [exprTree, treeNames_node]
      exact treesNames_exprParts span e

theorem treesNames_exprParts (span : Span) : (e : Expr) →
    ((Node.expr ⟨e, span⟩).NameIs ok ∧ TreesNames ok (exprParts e) ↔ e.AllNames ok)
  | .binary _ ⟨l, s⟩ ⟨r, t⟩ => by
      simp [NameIs, name?, exprParts, Expr.AllNames, treeNames_exprTree ⟨l, s⟩,
        treeNames_exprTree ⟨r, t⟩]
  | .lookup ⟨a, s⟩ ⟨i, t⟩ => by
      simp [NameIs, name?, exprParts, Expr.AllNames, treeNames_exprTree ⟨a, s⟩,
        treeNames_exprTree ⟨i, t⟩]
  | .length ⟨a, s⟩ => by
      simp [NameIs, name?, exprParts, Expr.AllNames, treeNames_exprTree ⟨a, s⟩]
  | .call ⟨r, s⟩ _ args => by
      simp [NameIs, name?, exprParts, Expr.AllNames, treeNames_exprTree ⟨r, s⟩,
        treesNames_exprTrees args]
  | .int _ => by simp [NameIs, name?, exprParts, Expr.AllNames]
  | .bool _ => by simp [NameIs, name?, exprParts, Expr.AllNames]
  | .var _ => by simp [NameIs, name?, exprParts, Expr.AllNames]
  | .this => by simp [NameIs, name?, exprParts, Expr.AllNames]
  | .newArray ⟨n, s⟩ => by
      simp [NameIs, name?, exprParts, Expr.AllNames, treeNames_exprTree ⟨n, s⟩]
  | .newObject _ => by simp [NameIs, name?, exprParts, Expr.AllNames]
  | .not ⟨e, s⟩ => by
      simp [NameIs, name?, exprParts, Expr.AllNames, treeNames_exprTree ⟨e, s⟩]

theorem treesNames_exprTrees : (es : List (Located Expr)) →
    (TreesNames ok (exprTrees es) ↔ Expr.AllNamesList ok es)
  | [] => by simp [exprTrees, Expr.AllNamesList]
  | ⟨e, s⟩ :: es => by
      simp [exprTrees, Expr.AllNamesList, treeNames_exprTree ⟨e, s⟩, treesNames_exprTrees es]

end

theorem treesNames_varDeclParts {d : VarDecl} :
    TreesNames ok (varDeclParts d) ↔ d.AllNames ok := by
  simp [varDeclParts, VarDecl.AllNames, treesNames_map]

mutual

theorem treeNames_stmtTree : (s : Located Stmt) →
    (TreeNames ok (stmtTree s) ↔ s.node.AllNames ok)
  | ⟨s, span⟩ => by
      have hname : (ofStmt s span).NameIs ok := by
        cases s <;> simp [NameIs, name?, ofStmt]
      rw [stmtTree, treeNames_node, treesNames_stmtParts s]
      exact and_iff_right hname

theorem treesNames_stmtParts : (s : Stmt) → (TreesNames ok (stmtParts s) ↔ s.AllNames ok)
  | .block body => by simp [stmtParts, Stmt.AllNames, treesNames_stmtTrees body]
  | .ifThen c ⟨t, s⟩ => by
      simp [stmtParts, Stmt.AllNames, treeNames_exprTree, treeNames_stmtTree ⟨t, s⟩]
  | .ifElse c ⟨t, s⟩ ⟨e, u⟩ => by
      simp [stmtParts, Stmt.AllNames, treeNames_exprTree, treeNames_stmtTree ⟨t, s⟩,
        treeNames_stmtTree ⟨e, u⟩]
  | .loop c ⟨body, s⟩ => by
      simp [stmtParts, Stmt.AllNames, treeNames_exprTree, treeNames_stmtTree ⟨body, s⟩]
  | .print _ => by simp [stmtParts, Stmt.AllNames, treeNames_exprTree]
  | .assign _ _ => by simp [stmtParts, Stmt.AllNames, treeNames_exprTree]
  | .arrayAssign _ _ _ => by simp [stmtParts, Stmt.AllNames, treeNames_exprTree]
  | .varDecl _ => by simp [stmtParts, Stmt.AllNames, treesNames_varDeclParts]

theorem treesNames_stmtTrees : (ss : List (Located Stmt)) →
    (TreesNames ok (stmtTrees ss) ↔ Stmt.AllNamesList ok ss)
  | [] => by simp [stmtTrees, Stmt.AllNamesList]
  | ⟨s, span⟩ :: ss => by
      simp [stmtTrees, Stmt.AllNamesList, treeNames_stmtTree ⟨s, span⟩, treesNames_stmtTrees ss]

end

theorem treeNames_varDeclTree (d : Located VarDecl) :
    TreeNames ok (varDeclTree d) ↔ d.node.AllNames ok := by
  simp [varDeclTree, NameIs, name?, treesNames_varDeclParts]

theorem treeNames_formalTree (f : Located Formal) :
    TreeNames ok (formalTree f) ↔ f.node.AllNames ok := by
  simp [formalTree, NameIs, name?, Formal.AllNames]

theorem treeNames_methodTree (m : Located MethodDecl) :
    TreeNames ok (methodTree m) ↔ m.node.AllNames ok := by
  simp only [methodTree, treeNames_node, treesNames_append, treesNames_cons, treesNames_nil,
    treeNames_tyTree, treeNames_identTree, treesNames_map, treeNames_formalTree, ← stmtTrees_eq_map,
    treesNames_stmtTrees, treeNames_exprTree]
  constructor
  · rintro ⟨-, ⟨⟨⟨ht, hn, -⟩, hf⟩, hb⟩, he, -⟩
    exact ⟨ht, hn, hf, hb, he⟩
  · rintro ⟨ht, hn, hf, hb, he⟩
    exact ⟨nofun, ⟨⟨⟨ht, hn, trivial⟩, hf⟩, hb⟩, he, trivial⟩

theorem treeNames_classTree (c : Located ClassDecl) :
    TreeNames ok (classTree c) ↔ c.node.AllNames ok := by
  simp only [classTree, treeNames_node, treesNames_append, treesNames_cons, treesNames_nil,
    treeNames_identTree, treesNames_map, treeNames_varDeclTree, treeNames_methodTree]
  constructor
  · rintro ⟨-, ⟨⟨⟨hn, -⟩, hp⟩, hf⟩, hm⟩
    exact ⟨hn, fun p hparent => hp p (Option.mem_toList.mpr hparent), hf, hm⟩
  · rintro ⟨hn, hp, hf, hm⟩
    exact ⟨nofun, ⟨⟨⟨hn, trivial⟩, fun p hparent => hp p (Option.mem_toList.mp hparent)⟩, hf⟩, hm⟩

theorem treeNames_mainClassTree (c : Located MainClass) :
    TreeNames ok (mainClassTree c) ↔ c.node.AllNames ok := by
  simp only [mainClassTree, treeNames_node, treesNames_cons, treesNames_nil, treeNames_identTree,
    treeNames_stmtTree]
  constructor
  · rintro ⟨-, hn, ha, hb, -⟩
    exact ⟨hn, ha, hb⟩
  · rintro ⟨hn, ha, hb⟩
    exact ⟨nofun, hn, ha, hb, trivial⟩

theorem treeNames_programTree (p : Located Program) :
    TreeNames ok (programTree p) ↔ p.node.AllNames ok := by
  simp only [programTree, treeNames_node, treesNames_cons, treeNames_mainClassTree, treesNames_map,
    treeNames_classTree]
  constructor
  · rintro ⟨-, hm, hc⟩
    exact ⟨hm, hc⟩
  · rintro ⟨hm, hc⟩
    exact ⟨nofun, hm, hc⟩

/-- Every name in the node satisfies the condition if the nodes that are names do. -/
theorem treeNames_tree (n : Node) : TreeNames ok n.tree ↔ n.AllNames ok := by
  cases n with
  | program p => exact treeNames_programTree p
  | mainClass c => exact treeNames_mainClassTree c
  | classDecl c => exact treeNames_classTree c
  | varDecl d => exact treeNames_varDeclTree d
  | methodDecl m => exact treeNames_methodTree m
  | formal f => exact treeNames_formalTree f
  | ty t => exact treeNames_tyTree
  | stmt s => exact treeNames_stmtTree s
  | expr e => exact treeNames_exprTree e
  | ident i => exact treeNames_identTree

end MiniJava.Node
