import MiniJava.Proofs.Tree.Levels

/-!
Running an action at every value of a tree, in preorder, and putting what it gives in the place of
the value. The shape of the tree is kept, and with it the depth of every value.
-/
namespace MiniJava.Tree

variable {m : Type → Type} [Monad m] {α β γ : Type}

mutual

/-- Replace every value by what the action makes of it, a value before those below it. -/
@[simp] def traverse (f : α → m β) : Tree α → m (Tree β)
  | .node value children => return .node (← f value) (← traverseList f children)

@[simp] def traverseList (f : α → m β) : List (Tree α) → m (List (Tree β))
  | [] => pure []
  | t :: ts => return (← traverse f t) :: (← traverseList f ts)

end

variable [LawfulMonad m] (f : α → m β)

theorem traverseList_eq_mapM (ts : List (Tree α)) : traverseList f ts = ts.mapM (traverse f) := by
  induction ts with
  | nil => rfl
  | cons t ts ih => rw [traverseList, ih, List.mapM_cons]

mutual

/-- The action is run level by level. -/
theorem levels_traverse (depth : Nat) : (t : Tree α) →
    levels depth <$> traverse f t = (levels depth t).mapM fun l => (l.1, ·) <$> f l.2
  | .node value children => by simp [levels, ← levelsList_traverse (depth + 1) children]

theorem levelsList_traverse (depth : Nat) : (ts : List (Tree α)) →
    levelsList depth <$> traverseList f ts =
      (levelsList depth ts).mapM fun l => (l.1, ·) <$> f l.2
  | [] => by simp [levelsList]
  | t :: ts => by simp [levelsList, ← levels_traverse depth t, ← levelsList_traverse depth ts]

end

theorem map_mapM (g : β → γ) (as : List α) :
    List.map g <$> as.mapM f = as.mapM fun a => g <$> f a := by
  induction as with
  | nil => simp
  | cons a as ih => simp [← ih]

end MiniJava.Tree
