import MiniJava.Outline
import MiniJava.Proofs.Transform.Rebuilding

/-!
Entries of an outline and a transformation that has a hook for names alone. The tree of the
transformed node has the entries of the tree before, with the hook run at every identifier, since
the entry of any other node tells nothing of its names.
-/
namespace MiniJava

open Node Outline MiniJava.Tree

variable {m : Type → Type} [Monad m]

/-- The transformation with no hook but that for names. -/
def Transform.ofIdent (hook : Ident → m Ident) : Transform m where
  ident := hook

namespace Outline

variable (showLocations : Bool)

/-- The tree with the entry of every node in its place. -/
def entries : Tree Node → Tree String := Tree.map (entry showLocations)

/-- The entry of a node, or of what the hook puts in the place of an identifier. -/
@[simp] def hookedEntry (hook : Ident → m Ident) : Node → m String
  | .ident i => (fun i => entry showLocations (.ident i)) <$> hook i
  | n => pure (entry showLocations n)

/-- The entries of a node, from its head and those of its parts. A declaration statement has no
entry beside that of its declaration. -/
def assemble (head : Head) (parts : List (Tree String)) : Tree String :=
  let heading := head.tag.text
  match head.span? with
  | some span => .node (if showLocations then heading ++ " @" ++ span.start.text else heading) parts
  | none => parts.headD (.node heading [])

theorem assemble_head {n : Node} (h : n.isDeclStmt = false) (parts : List (Tree String)) :
    assemble showLocations n.head parts = .node (entry showLocations n) parts := by
  rw [assemble, entry, heading_eq_text, head, h]
  rfl

theorem entries_tree (n : Node) : entries showLocations n.tree =
    assemble showLocations n.head (n.callParts.map fun p => entries showLocations p.tree) := by
  cases hn : n.isDeclStmt with
  | true =>
      obtain ⟨d, rfl⟩ := exists_eq_varDecl hn
      exact congrArg (entries showLocations) (tree_declStmt d)
  | false =>
      rw [assemble_head showLocations hn, callParts_eq_parts hn, tree_eq, unified_eq_self hn,
        entries, Tree.map, mapList_eq_map, List.map_map]
      rfl

end Outline

/-! ## The entries of a transformed node -/

namespace Transform

variable [LawfulMonad m] (locs : Bool) (hook : Ident → m Ident)

theorem traverse_tree {n : Node} (h : n.kind.isLeaf = false) :
    n.tree.traverse (hookedEntry locs hook) = assemble locs n.head <$>
      n.callParts.mapM fun p => p.tree.traverse (hookedEntry locs hook) := by
  cases hn : n.isDeclStmt with
  | true =>
      obtain ⟨d, rfl⟩ := exists_eq_varDecl hn
      have hparts : (Node.stmt (d.map .varDecl)).callParts = [.varDecl d] := rfl
      have hhead (t : Tree String) :
          assemble locs (Node.stmt (d.map .varDecl)).head [t] = t := rfl
      rw [hparts, tree_declStmt, List.mapM_cons]
      simp [hhead]
  | false =>
      have hentry : hookedEntry locs hook n = pure (entry locs n) := by
        cases n with
        | ident i => cases h
        | _ => rfl
      have hhead : assemble locs n.head = Tree.node (entry locs n) := funext (assemble_head locs hn)
      rw [callParts_eq_parts hn, tree_eq, unified_eq_self hn, Tree.traverse, hentry,
        traverseList_eq_mapM, hhead]
      simp [Function.comp_def]

theorem entries_leaf {n : Node} (h : n.kind.isLeaf) :
    (fun n => entries locs n.tree) <$> (ofIdent hook).onNode n =
      n.tree.traverse (hookedEntry locs hook) := by
  cases n with
  | ident i => simp [onNode, ofIdent, tree, identTree, entries, Tree.map, mapList]
  | ty t => simp [onNode, ofIdent, tree, tyTree, entries, Tree.map, mapList]
  | _ => cases h

theorem entries_onNode (n : Node) :
    (fun n => entries locs n.tree) <$> (ofIdent hook).onNode n =
      n.tree.traverse (hookedEntry locs hook) := by
  induction n using induct_callParts with
  | step n ih =>
      cases hn : n.kind.isLeaf with
      | true => exact entries_leaf locs hook hn
      | false =>
          let made (l : Head × List Node) : Tree String :=
            assemble locs l.1 (l.2.map fun p => entries locs p.tree)
          have hmade : (fun n => entries locs n.tree) = made ∘ layer := funext (entries_tree locs)
          have hrebuild : (ofIdent hook).onNode n = (ofIdent hook).rebuildNode n :=
            onNode_ofLeaves hook pure hn
          calc
            _ = made <$> layer <$> (ofIdent hook).rebuildNode n := by
              rw [hrebuild, hmade, comp_map]
            _ = assemble locs n.head <$> List.map (fun p => entries locs p.tree) <$>
                  n.callParts.mapM (ofIdent hook).onNode := by
              rw [layer_rebuildNode, ← comp_map, ← comp_map]
              rfl
            _ = n.tree.traverse (hookedEntry locs hook) := by
              rw [map_mapM, mapM_congr ih, traverse_tree locs hook hn]

end Transform

end MiniJava
