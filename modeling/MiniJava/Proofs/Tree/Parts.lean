import Mathlib.Data.List.Chain
import MiniJava.Proofs.Tree.Pruned
import MiniJava.Tree.Syntax

/-!
The pieces that a node is directly made of. The tree of a node has the node at its root and the
trees of its parts below. So the places in the tree are the chains of nodes, each a part of the
next, that lead up to the root.
-/
namespace MiniJava

open MiniJava.Tree

namespace Node

def partsOfExpr : Expr → List Node
  | .binary _ l r => [.expr l, .expr r]
  | .lookup array index => [.expr array, .expr index]
  | .length array => [.expr array]
  | .call receiver method args => .expr receiver :: .ident method :: args.map .expr
  | .newArray size => [.expr size]
  | .newObject className => [.ident className]
  | .not operand => [.expr operand]
  | .int _ | .bool _ | .var _ | .this => []

def partsOfVarDecl (d : VarDecl) : List Node := .ty d.ty :: d.idents.map .ident

def partsOfStmt : Stmt → List Node
  | .block body => body.map .stmt
  | .ifThen c t => [.expr c, .stmt t]
  | .ifElse c t e => [.expr c, .stmt t, .stmt e]
  | .loop c body => [.expr c, .stmt body]
  | .print value => [.expr value]
  | .assign target value => [.ident target, .expr value]
  | .arrayAssign target index value => [.ident target, .expr index, .expr value]
  | .varDecl decl => partsOfVarDecl decl

/-- The located pieces of syntax that the node is directly made of, in source order. -/
def parts : Node → List Node
  | .program p => .mainClass p.node.mainClass :: p.node.classes.map .classDecl
  | .mainClass c => [.ident c.node.name, .ident c.node.args, .stmt c.node.body]
  | .classDecl c =>
    .ident c.node.name :: (c.node.parent.toList.map .ident ++ c.node.fields.map .varDecl ++
      c.node.methods.map .methodDecl)
  | .varDecl d => partsOfVarDecl d.node
  | .methodDecl m =>
    .ty m.node.returnType :: .ident m.node.name :: (m.node.formals.map .formal ++
      m.node.body.map .stmt ++ [.expr m.node.returnExpr])
  | .formal f => [.ty f.node.ty, .ident f.node.name]
  | .ty _ => []
  | .stmt s => partsOfStmt s.node
  | .expr e => partsOfExpr e.node
  | .ident _ => []

/-- The node itself; of a declaration statement the declaration, since the two are one node. -/
def unified : Node → Node
  | .stmt s => ofStmt s.node s.span
  | n => n

theorem parts_unified (n : Node) : n.unified.parts = n.parts := by
  cases n with
  | stmt s =>
      obtain ⟨s, span⟩ := s
      cases s <;> rfl
  | _ => rfl

/-! ## The tree of a node -/

theorem exprTrees_eq_map (es : List (Located Expr)) : exprTrees es = es.map exprTree := by
  induction es with
  | nil => rfl
  | cons e es ih => rw [exprTrees, ih, List.map_cons]

theorem exprTree_eq (e : Located Expr) :
    exprTree e = .node (.expr e) ((partsOfExpr e.node).map tree) := by
  obtain ⟨e, span⟩ := e
  cases e with
  | call receiver method args =>
      rw [exprTree, exprParts, exprTrees_eq_map, partsOfExpr, List.map_cons, List.map_cons,
        List.map_map]
      rfl
  | _ => rfl

theorem stmtTree_eq (s : Located Stmt) :
    stmtTree s = .node (ofStmt s.node s.span) ((partsOfStmt s.node).map tree) := by
  obtain ⟨s, span⟩ := s
  cases s with
  | block body =>
      rw [stmtTree, stmtParts, stmtTrees_eq_map, partsOfStmt, List.map_map]
      rfl
  | varDecl decl =>
      rw [stmtTree, stmtParts, partsOfStmt, partsOfVarDecl, List.map_cons, List.map_map]
      rfl
  | _ => rfl

/-- Below a node are the trees of its parts. -/
theorem tree_eq (n : Node) : n.tree = .node n.unified (n.parts.map tree) := by
  cases n with
  | program p =>
      rw [parts, List.map_cons, List.map_map]
      rfl
  | classDecl c =>
      simp only [parts, List.map_cons, List.map_append, List.map_map]
      rfl
  | varDecl d =>
      rw [parts, partsOfVarDecl, List.map_cons, List.map_map]
      rfl
  | methodDecl m =>
      simp only [parts, List.map_cons, List.map_append, List.map_map, List.map_nil]
      rfl
  | stmt s => exact stmtTree_eq s
  | expr e => exact exprTree_eq e
  | _ => rfl

/-- What holds of a node if it holds of its parts holds of every node. -/
theorem induct {motive : Node → Prop} (step : ∀ n : Node, (∀ m ∈ n.parts, motive m) → motive n)
    (n : Node) : motive n := induct_unfold tree_eq step n

/-! ## Places in the tree -/

/-- The node is one of the parts of the other. -/
def PartOf (m n : Node) : Prop := m ∈ n.parts.map unified

/-- The nodes in a node in preorder, each with the nodes that it is part of, the nearest first. -/
def places (n : Node) : List (List Node × Node) := n.tree.lineage []

theorem lineage_tree (above : List Node) (n : Node) :
    n.tree.lineage above =
      (above, n.unified) :: n.parts.flatMap fun m => m.tree.lineage (n.unified :: above) := by
  rw [tree_eq, lineage, lineageList_eq_flatMap, List.flatMap_map]

theorem mem_lineage_iff {n : Node} {above : List Node} {l : List Node × Node} :
    l ∈ n.tree.lineage above ↔ ∃ path : List Node, l.2 :: l.1 = path ++ n.unified :: above ∧
      (path ++ [n.unified]).IsChain PartOf := by
  induction n using induct generalizing above with
  | step n ih =>
      rw [lineage_tree, List.mem_cons, List.mem_flatMap]
      constructor
      · rintro (rfl | ⟨m, hm, hl⟩)
        · exact ⟨[], rfl, .singleton _⟩
        · obtain ⟨path, hpath, hchain⟩ := (ih m hm).mp hl
          have hpart : m.unified.PartOf n.unified := by
            rw [PartOf, parts_unified]
            exact List.mem_map_of_mem hm
          refine ⟨path ++ [m.unified], by simpa using hpath, ?_⟩
          rw [List.append_assoc, List.singleton_append, List.isChain_append_cons_cons]
          exact ⟨hchain, hpart, .singleton _⟩
      · rintro ⟨path, hpath, hchain⟩
        rcases List.eq_nil_or_concat' path with rfl | ⟨path, p, rfl⟩
        · left
          obtain ⟨hnode, habove⟩ := List.cons.inj hpath
          exact Prod.ext habove hnode
        · right
          rw [List.append_assoc, List.singleton_append, List.isChain_append_cons_cons, PartOf,
            parts_unified, List.mem_map] at hchain
          obtain ⟨hchain, ⟨m, hm, rfl⟩, -⟩ := hchain
          exact ⟨m, hm, (ih m hm).mpr ⟨path, by simpa using hpath, hchain⟩⟩

/-- The places in a node are all chains of nodes, each a part of the next, that end in the node. -/
theorem mem_places_iff {n : Node} {l : List Node × Node} :
    l ∈ n.places ↔ (l.2 :: l.1).IsChain PartOf ∧ (l.2 :: l.1).getLast? = some n.unified := by
  rw [places, mem_lineage_iff, List.getLast?_eq_some_iff]
  constructor
  · rintro ⟨path, hpath, hchain⟩
    rw [hpath]
    exact ⟨hchain, path, rfl⟩
  · rintro ⟨hchain, path, hpath⟩
    exact ⟨path, hpath, hpath ▸ hchain⟩

end Node

end MiniJava
