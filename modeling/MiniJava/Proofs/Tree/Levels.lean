import MiniJava.Tree.Basic

/-!
The values of a tree in preorder, each with the depth that it is at. Depths keep the shape: a tree
can be read back from them, since what is below a value ends where the depths come down to it again.
-/
namespace MiniJava.Tree

variable {α β : Type}

mutual

/-- The values in preorder, each with its depth; the root is at the depth given. -/
def levels (depth : Nat) : Tree α → List (Nat × α)
  | .node value children => (depth, value) :: levelsList (depth + 1) children

def levelsList (depth : Nat) : List (Tree α) → List (Nat × α)
  | [] => []
  | t :: ts => levels depth t ++ levelsList depth ts

end

mutual

/-- Change every value and keep the shape. -/
def map (f : α → β) : Tree α → Tree β
  | .node value children => .node (f value) (mapList f children)

def mapList (f : α → β) : List (Tree α) → List (Tree β)
  | [] => []
  | t :: ts => map f t :: mapList f ts

end

theorem mapList_eq_map (f : α → β) (ts : List (Tree α)) : mapList f ts = ts.map (map f) := by
  induction ts with
  | nil => rfl
  | cons t ts ih => rw [mapList, ih, List.map_cons]

mutual

theorem levels_map_snd (depth : Nat) : (t : Tree α) → (levels depth t).map Prod.snd = t.preorder
  | .node value children => by
      rw [levels, preorder, List.map_cons, levelsList_map_snd (depth + 1) children]

theorem levelsList_map_snd (depth : Nat) :
    (ts : List (Tree α)) → (levelsList depth ts).map Prod.snd = preorderList ts
  | [] => by rw [levelsList, preorderList, List.map_nil]
  | t :: ts => by
      rw [levelsList, preorderList, List.map_append, levels_map_snd depth t,
        levelsList_map_snd depth ts]

end

mutual

theorem levels_succ (depth : Nat) :
    (t : Tree α) → levels (depth + 1) t = (levels depth t).map (Prod.map (· + 1) id)
  | .node value children => by
      rw [levels, levels, List.map_cons, levelsList_succ (depth + 1) children]
      rfl

theorem levelsList_succ (depth : Nat) :
    (ts : List (Tree α)) →
    levelsList (depth + 1) ts = (levelsList depth ts).map (Prod.map (· + 1) id)
  | [] => by rw [levelsList, levelsList, List.map_nil]
  | t :: ts => by
      rw [levelsList, levelsList, List.map_append, levels_succ depth t, levelsList_succ depth ts]

end

mutual

theorem levels_map (f : α → β) (depth : Nat) :
    (t : Tree α) → levels depth (t.map f) = (levels depth t).map (Prod.map id f)
  | .node value children => by
      rw [map, levels, levels, List.map_cons, levelsList_map f (depth + 1) children]
      rfl

theorem levelsList_map (f : α → β) (depth : Nat) :
    (ts : List (Tree α)) →
    levelsList depth (mapList f ts) = (levelsList depth ts).map (Prod.map id f)
  | [] => by rw [mapList, levelsList, levelsList, List.map_nil]
  | t :: ts => by
      rw [mapList, levelsList, levelsList, List.map_append, levels_map f depth t,
        levelsList_map f depth ts]

end

/-! ## Reading a tree back -/

/-- The list is at its end or comes down to a depth less than the one given. -/
def ComesBelow (depth : Nat) (rest : List (Nat × α)) : Prop := ∀ l ∈ rest.head?, l.1 < depth

theorem ComesBelow.nil (depth : Nat) : ComesBelow depth ([] : List (Nat × α)) := by
  intro l hl
  cases hl

theorem ComesBelow.levelsList {depth : Nat} {rest : List (Nat × α)} (h : ComesBelow depth rest)
    (ts : List (Tree α)) : ComesBelow (depth + 1) (levelsList depth ts ++ rest) := by
  cases ts with
  | nil => exact fun l hl => Nat.lt_succ_of_lt (h l hl)
  | cons t ts =>
      obtain ⟨value, children⟩ := t
      intro l hl
      rw [Tree.levelsList, levels, List.cons_append, List.cons_append, List.head?_cons,
        Option.mem_some_iff] at hl
      exact hl ▸ Nat.lt_succ_self depth

theorem ComesBelow.ne_levels {depth : Nat} {rest rest' : List (Nat × α)} (h : ComesBelow depth rest)
    (t : Tree α) : rest ≠ levels depth t ++ rest' := by
  rintro rfl
  obtain ⟨value, children⟩ := t
  exact Nat.lt_irrefl depth (h (depth, value) rfl)

mutual

/-- A tree is where its levels end, whatever comes after them. -/
theorem levels_append_inj {depth : Nat} : (t t' : Tree α) → {rest rest' : List (Nat × α)} →
    ComesBelow (depth + 1) rest → ComesBelow (depth + 1) rest' →
    levels depth t ++ rest = levels depth t' ++ rest' → t = t' ∧ rest = rest'
  | .node value children, .node value' children', rest, rest', hr, hr', h => by
      rw [levels, levels, List.cons_append, List.cons_append, List.cons.injEq, Prod.mk.injEq] at h
      obtain ⟨⟨-, rfl⟩, h⟩ := h
      obtain ⟨rfl, hrest⟩ := levelsList_append_inj children children' hr hr' h
      exact ⟨rfl, hrest⟩

theorem levelsList_append_inj {depth : Nat} : (ts ts' : List (Tree α)) →
    {rest rest' : List (Nat × α)} → ComesBelow depth rest → ComesBelow depth rest' →
    levelsList depth ts ++ rest = levelsList depth ts' ++ rest' → ts = ts' ∧ rest = rest'
  | [], [], _, _, _, _, h => ⟨rfl, h⟩
  | [], t' :: ts', _, _, hr, _, h => by
      rw [levelsList, levelsList, List.nil_append, List.append_assoc] at h
      exact absurd h (hr.ne_levels t')
  | t :: ts, [], _, _, _, hr', h => by
      rw [levelsList, levelsList, List.nil_append, List.append_assoc] at h
      exact absurd h.symm (hr'.ne_levels t)
  | t :: ts, t' :: ts', _, _, hr, hr', h => by
      rw [levelsList, levelsList, List.append_assoc, List.append_assoc] at h
      obtain ⟨rfl, htail⟩ := levels_append_inj t t' (hr.levelsList ts) (hr'.levelsList ts') h
      obtain ⟨rfl, hrest⟩ := levelsList_append_inj ts ts' hr hr' htail
      exact ⟨rfl, hrest⟩

end

/-- A tree is determined by its values in preorder and their depths. -/
theorem levels_inj {depth : Nat} {t t' : Tree α} (h : levels depth t = levels depth t') :
    t = t' := by
  have hnil : levels depth t ++ [] = levels depth t' ++ [] := by rw [h]
  exact (levels_append_inj t t' (.nil _) (.nil _) hnil).1

end MiniJava.Tree
