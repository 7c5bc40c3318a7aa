import MiniJava.Proofs.Transform.Rebuilding
import MiniJava.Transform.Passes

/-!
Transformations that leave every node as it is or change its names and types alone. Without hooks a
tree is built anew as it was; with hooks for names and types, two transformations one after the
other are one whose hooks are those of both.
-/
namespace MiniJava

open Node

namespace Transform

/-! ## No hooks -/

section Identity

variable {m : Type → Type} [Monad m] [LawfulMonad m]

theorem onNode_pure (n : Node) : ({} : Transform m).onNode n = pure n := by
  refine onNode_eq_pure (S := fun _ => True) (fun _ _ _ _ => trivial) (fun n _ h => ?_) trivial
  cases hn : n.kind.isLeaf with
  | true =>
      cases n with
      | ty t => simp [onNode]
      | ident i => simp [onNode]
      | _ => cases hn
  | false => exact (onNode_ofLeaves pure pure hn).trans h

theorem rebuildNode_pure (n : Node) : ({} : Transform m).rebuildNode n = pure n :=
  rebuildNode_eq_pure fun p _ => onNode_pure p

end Identity

end Transform

/-! ## One transformation after another -/

/-- What to put in the place of names and of types. -/
structure LeafMap where
  ident : Ident → Ident
  ty : Located Ty → Located Ty

namespace LeafMap

/-- The transformation that replaces names and types and rebuilds everything else. -/
def transform (f : LeafMap) : Transform Id where
  ident := f.ident
  ty := f.ty

/-- Renaming a class is of this sort. -/
example (old new : String) :
    let pass := Transform.renameClass old new
    LeafMap.transform ⟨pass.ident, pass.ty⟩ = pass := rfl

/-- Replace by the second what the first puts there. -/
def comp (g f : LeafMap) : LeafMap := ⟨g.ident ∘ f.ident, g.ty ∘ f.ty⟩

variable (g f : LeafMap)

theorem onNode_eq_rebuildNode {n : Node} (h : n.kind.isLeaf = false) :
    f.transform.onNode n = f.transform.rebuildNode n :=
  Transform.onNode_ofLeaves (m := Id) f.ident f.ty h

theorem layer_onNode {n : Node} (h : n.kind.isLeaf = false) :
    layer (f.transform.onNode n) = (n.head, n.callParts.map f.transform.onNode) := by
  rw [onNode_eq_rebuildNode f h, Transform.layer_rebuildNode_id]

theorem isLeaf_onNode {n : Node} (h : n.kind.isLeaf = false) :
    (f.transform.onNode n : Node).kind.isLeaf = false :=
  (congrArg (·.1.kind.isLeaf) (layer_onNode f h)).trans h

theorem onNode_comp (n : Node) :
    g.transform.onNode (f.transform.onNode n) = (g.comp f).transform.onNode n := by
  induction n using induct_callParts with
  | step n ih =>
      cases hn : n.kind.isLeaf with
      | true =>
          cases n with
          | ty t => rfl
          | ident i => rfl
          | _ => cases hn
      | false =>
          let n' : Node := f.transform.onNode n
          have hhead : n'.head = n.head := congrArg Prod.fst (layer_onNode f hn)
          have hparts : n'.callParts = n.callParts.map f.transform.onNode :=
            congrArg Prod.snd (layer_onNode f hn)
          apply layer_injective
          rw [layer_onNode (g.comp f) hn, layer_onNode g (isLeaf_onNode f hn), hhead, hparts,
            List.map_map]
          exact congrArg (n.head, ·) (List.map_congr_left ih)

/-- Names and types on their own are left as they are on both sides; a node of any other sort is
rebuilt as it is transformed, since it has no hook of its own. -/
theorem rebuildNode_comp (n : Node) :
    g.transform.rebuildNode (f.transform.rebuildNode n) = (g.comp f).transform.rebuildNode n := by
  cases hn : n.kind.isLeaf with
  | true =>
      cases n with
      | ty t => rfl
      | ident i => rfl
      | _ => cases hn
  | false =>
      rw [← onNode_eq_rebuildNode f hn, ← onNode_eq_rebuildNode g (isLeaf_onNode f hn),
        ← onNode_eq_rebuildNode (g.comp f) hn, onNode_comp]

/-- A transformation without hooks gives every node back as it is, its spans included, whether or
not it starts with the hook of the node itself, and two transformations that only have hooks for
names and types are one after the other the transformation with the composed hooks. -/
theorem identity_and_composition :
    (∀ (m : Type → Type) [Monad m] [LawfulMonad m] (n : Node),
      ({} : Transform m).onNode n = pure n ∧ ({} : Transform m).rebuildNode n = pure n) ∧
    ∀ (g f : LeafMap) (n : Node),
      g.transform.onNode (f.transform.onNode n) = (g.comp f).transform.onNode n ∧
      g.transform.rebuildNode (f.transform.rebuildNode n) = (g.comp f).transform.rebuildNode n := by
  constructor
  · intro m _ _ n
    exact ⟨Transform.onNode_pure n, Transform.rebuildNode_pure n⟩
  · intro g f n
    exact ⟨onNode_comp g f n, rebuildNode_comp g f n⟩

end LeafMap

end MiniJava
