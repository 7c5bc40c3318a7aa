import MiniJava.Tree.Basic

/-!
Walks and the orders that they go in. A walk of a tree runs its action on the values in preorder,
one after the other, whatever the monad; a preorder may also stop short of the subtrees of some
values.
-/
namespace MiniJava.Tree

variable {α β : Type}

mutual

/-- The values, each before those of its subtrees, without what is below a value that stops. -/
def preorderUpTo (stop : α → Bool) : Tree α → List α
  | .node value children => value :: if stop value then [] else preorderUpToList stop children

def preorderUpToList (stop : α → Bool) : List (Tree α) → List α
  | [] => []
  | t :: ts => preorderUpTo stop t ++ preorderUpToList stop ts

end

theorem preorderList_eq_flatMap (ts : List (Tree α)) : preorderList ts = ts.flatMap preorder := by
  induction ts with
  | nil => rfl
  | cons t ts ih => rw [preorderList, ih, List.flatMap_cons]

mutual

theorem preorderUpTo_never : (t : Tree α) → preorderUpTo (fun _ => false) t = t.preorder
  | .node value children => by
      rw [preorderUpTo, preorder, preorderUpToList_never children]
      rfl

theorem preorderUpToList_never :
    (ts : List (Tree α)) → preorderUpToList (fun _ => false) ts = preorderList ts
  | [] => rfl
  | t :: ts => by
      rw [preorderUpToList, preorderList, preorderUpTo_never t, preorderUpToList_never ts]

end

/-! ## Finding -/

mutual

theorem find_eq_filter (p : α → Bool) : (t : Tree α) → t.find p = t.preorder.filter p
  | .node value children => by
      rw [find, preorder, List.filter_cons, findList_eq_filter p children]

theorem findList_eq_filter (p : α → Bool) :
    (ts : List (Tree α)) → findList p ts = (preorderList ts).filter p
  | [] => rfl
  | t :: ts => by
      rw [findList, preorderList, List.filter_append, find_eq_filter p t, findList_eq_filter p ts]

end

mutual

theorem any_eq_any (p : α → Bool) : (t : Tree α) → t.any p = t.preorder.any p
  | .node value children => by
      rw [any, preorder, List.any_cons, anyList_eq_any p children]

theorem anyList_eq_any (p : α → Bool) :
    (ts : List (Tree α)) → anyList p ts = (preorderList ts).any p
  | [] => rfl
  | t :: ts => by
      rw [anyList, preorderList, List.any_append, any_eq_any p t, anyList_eq_any p ts]

end

mutual

theorem all_eq_all (p : α → Bool) : (t : Tree α) → t.all p = t.preorder.all p
  | .node value children => by
      rw [all, preorder, List.all_cons, allList_eq_all p children]

theorem allList_eq_all (p : α → Bool) :
    (ts : List (Tree α)) → allList p ts = (preorderList ts).all p
  | [] => rfl
  | t :: ts => by
      rw [allList, preorderList, List.all_append, all_eq_all p t, allList_eq_all p ts]

end

/-! ## Selecting -/

/-- What the function gives for the values, in preorder. -/
def select (f : α → Option β) (t : Tree α) : List β := t.preorder.filterMap f

def selectList (f : α → Option β) (ts : List (Tree α)) : List β := (preorderList ts).filterMap f

@[simp] theorem select_node (f : α → Option β) (value : α) (children : List (Tree α)) :
    select f (.node value children) = (f value).toList ++ selectList f children := by
  rw [select, selectList, preorder, List.filterMap_cons]
  cases f value <;> rfl

@[simp] theorem selectList_nil (f : α → Option β) : selectList f [] = [] := by
  rw [selectList, preorderList, List.filterMap_nil]

@[simp] theorem selectList_cons (f : α → Option β) (t : Tree α) (ts : List (Tree α)) :
    selectList f (t :: ts) = select f t ++ selectList f ts := by
  rw [selectList, preorderList, List.filterMap_append]
  rfl

theorem selectList_map {γ : Type} {f : α → Option β} {tree : γ → Tree α} {g : γ → List β}
    (h : ∀ c, select f (tree c) = g c) (cs : List γ) :
    selectList f (cs.map tree) = cs.flatMap g := by
  induction cs with
  | nil => exact selectList_nil f
  | cons c cs ih => rw [List.map_cons, selectList_cons, h, ih, List.flatMap_cons]

/-! ## Trees that are unfolded -/

section Unfold

variable {γ : Type} {tree : γ → Tree α} {value : γ → α} {parts : γ → List γ}

mutual

theorem induct_tree (unfold : ∀ c, tree c = .node (value c) ((parts c).map tree))
    {motive : γ → Prop} (step : ∀ c, (∀ d ∈ parts c, motive d) → motive c) :
    (t : Tree α) → (c : γ) → tree c = t → motive c
  | .node value children, c, h => by
      rw [unfold, Tree.node.injEq] at h
      exact step c fun d hd => induct_trees unfold step children d (h.2 ▸ List.mem_map_of_mem hd)

theorem induct_trees (unfold : ∀ c, tree c = .node (value c) ((parts c).map tree))
    {motive : γ → Prop} (step : ∀ c, (∀ d ∈ parts c, motive d) → motive c) :
    (ts : List (Tree α)) → (c : γ) → tree c ∈ ts → motive c
  | [], c, h => by cases h
  | t :: ts, c, h => by
      rcases List.mem_cons.mp h with h | h
      · exact induct_tree unfold step t c h
      · exact induct_trees unfold step ts c h

end

/-- Where every element has a tree, with the trees of its parts below, what holds of an element if
it holds of its parts holds of every element. -/
theorem induct_unfold (unfold : ∀ c, tree c = .node (value c) ((parts c).map tree))
    {motive : γ → Prop} (step : ∀ c, (∀ d ∈ parts c, motive d) → motive c) (c : γ) : motive c :=
  induct_tree unfold step (tree c) c rfl

theorem preorder_unfold (unfold : ∀ c, tree c = .node (value c) ((parts c).map tree)) (c : γ) :
    (tree c).preorder = value c :: (parts c).flatMap fun d => (tree d).preorder := by
  rw [unfold, preorder, preorderList_eq_flatMap, List.flatMap_map]

theorem select_unfold (unfold : ∀ c, tree c = .node (value c) ((parts c).map tree))
    (f : α → Option β) (c : γ) :
    select f (tree c) = (f (value c)).toList ++ (parts c).flatMap fun d => select f (tree d) := by
  rw [unfold, select_node, selectList_map fun _ => rfl]

end Unfold

section Walk

variable {m : Type → Type} [Monad m] (act : α → m Unit)

mutual

theorem walk_eq_forM [LawfulMonad m] : (t : Tree α) → t.walk act = t.preorder.forM act
  | .node value children => by
      rw [walk, preorder, walkList_eq_forM children]
      rfl

theorem walkList_eq_forM [LawfulMonad m] :
    (ts : List (Tree α)) → walkList act ts = (preorderList ts).forM act
  | [] => by rw [walkList, preorderList]; rfl
  | t :: ts => by
      rw [walkList, preorderList, walk_eq_forM t, walkList_eq_forM ts]
      exact List.forM_append.symm

end

mutual

theorem walkPost_eq_forM [LawfulMonad m] : (t : Tree α) → t.walkPost act = t.postorder.forM act
  | .node value children => by
      have hlast : [value].forM act = act value := by simp
      have happend : (postorderList children ++ [value]).forM act =
          (do (postorderList children).forM act; [value].forM act) := List.forM_append
      rw [walkPost, postorder, walkPostList_eq_forM children, happend, hlast]

theorem walkPostList_eq_forM [LawfulMonad m] :
    (ts : List (Tree α)) → walkPostList act ts = (postorderList ts).forM act
  | [] => by rw [walkPostList, postorderList]; rfl
  | t :: ts => by
      rw [walkPostList, postorderList, walkPost_eq_forM t, walkPostList_eq_forM ts]
      exact List.forM_append.symm

end

theorem forM_flatMap [LawfulMonad m] (f : β → List α) (bs : List β) :
    (bs.flatMap f).forM act = bs.forM fun b => (f b).forM act := by
  induction bs with
  | nil => rfl
  | cons b bs ih =>
      have happend : (f b ++ bs.flatMap f).forM act =
          (do (f b).forM act; (bs.flatMap f).forM act) := List.forM_append
      rw [List.flatMap_cons, happend, ih]
      rfl

end Walk

end MiniJava.Tree
