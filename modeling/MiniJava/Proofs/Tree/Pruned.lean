import Mathlib.Data.List.Forall2
import MiniJava.Proofs.Tree.Levels
import MiniJava.Proofs.Tree.Walk

/-!
Trees cut off below some values. A preorder that stops at these values leaves out what has one of
them above it; and a tree may be changed value by value save for the subtrees of these values, which
stay as they are.
-/
namespace MiniJava.Tree

variable {α : Type}

/-! ## What is above a value -/

mutual

/-- The values in preorder, each with those above it, the nearest first. -/
def lineage (above : List α) : Tree α → List (List α × α)
  | .node value children => (above, value) :: lineageList (value :: above) children

def lineageList (above : List α) : List (Tree α) → List (List α × α)
  | [] => []
  | t :: ts => lineage above t ++ lineageList above ts

end

theorem lineageList_eq_flatMap (above : List α) (ts : List (Tree α)) :
    lineageList above ts = ts.flatMap (lineage above) := by
  induction ts with
  | nil => rfl
  | cons t ts ih => rw [lineageList, ih, List.flatMap_cons]

mutual

theorem lineage_map_snd (above : List α) : (t : Tree α) →
    (t.lineage above).map Prod.snd = t.preorder
  | .node value children => by
      rw [lineage, preorder, List.map_cons, lineageList_map_snd (value :: above) children]

theorem lineageList_map_snd (above : List α) : (ts : List (Tree α)) →
    (lineageList above ts).map Prod.snd = preorderList ts
  | [] => by rw [lineageList, preorderList, List.map_nil]
  | t :: ts => by
      rw [lineageList, preorderList, List.map_append, lineage_map_snd above t,
        lineageList_map_snd above ts]

end

mutual

/-- The depth of a value is the number of values above it. -/
theorem levels_eq_map_lineage (above : List α) : (t : Tree α) →
    t.levels above.length = (t.lineage above).map fun l => (l.1.length, l.2)
  | .node value children => by
      rw [levels, lineage, List.map_cons, ← levelsList_eq_map_lineage (value :: above) children]
      rfl

theorem levelsList_eq_map_lineage (above : List α) : (ts : List (Tree α)) →
    levelsList above.length ts = (lineageList above ts).map fun l => (l.1.length, l.2)
  | [] => by rw [levelsList, lineageList, List.map_nil]
  | t :: ts => by
      rw [levelsList, lineageList, List.map_append, levels_eq_map_lineage above t,
        levelsList_eq_map_lineage above ts]

end

mutual

theorem suffix_of_mem_lineage {above : List α} {l : List α × α} :
    (t : Tree α) → l ∈ t.lineage above → above <:+ l.1
  | .node value children, h => by
      rw [lineage, List.mem_cons] at h
      obtain rfl | h := h
      · exact List.suffix_refl above
      · exact (List.suffix_cons value above).trans (suffix_of_mem_lineageList children h)

theorem suffix_of_mem_lineageList {above : List α} {l : List α × α} :
    (ts : List (Tree α)) → l ∈ lineageList above ts → above <:+ l.1
  | [], h => by cases h
  | t :: ts, h => by
      rw [lineageList, List.mem_append] at h
      obtain h | h := h
      · exact suffix_of_mem_lineage t h
      · exact suffix_of_mem_lineageList ts h

end

/-- What is below a value that stops has a value that stops above it. -/
theorem any_of_mem_lineageList {stop : α → Bool} {above : List α} {l : List α × α}
    (h : above.any stop) {ts : List (Tree α)} (hl : l ∈ lineageList above ts) : l.1.any stop := by
  obtain ⟨value, hvalue, hstop⟩ := List.any_eq_true.mp h
  exact List.any_eq_true.mpr ⟨value, (suffix_of_mem_lineageList ts hl).subset hvalue, hstop⟩

mutual

/-- A preorder that stops at some values is without what is below them. -/
theorem preorderUpTo_eq_filter {stop : α → Bool} {above : List α} (h : above.any stop = false) :
    (t : Tree α) → t.preorderUpTo stop =
      ((t.lineage above).filter fun l => !l.1.any stop).map Prod.snd
  | .node value children => by
      rw [preorderUpTo, lineage, List.filter_cons_of_pos (by rw [h]; rfl), List.map_cons]
      cases hstop : stop value with
      | true =>
          have hbelow : (value :: above).any stop := by rw [List.any_cons, hstop, Bool.true_or]
          rw [List.filter_eq_nil_iff.mpr fun l hl => by rw [any_of_mem_lineageList hbelow hl]; simp]
          rfl
      | false =>
          have hbelow : (value :: above).any stop = false := by
            rw [List.any_cons, hstop, h, Bool.false_or]
          rw [← preorderUpToList_eq_filter hbelow children]
          rfl

theorem preorderUpToList_eq_filter {stop : α → Bool} {above : List α}
    (h : above.any stop = false) : (ts : List (Tree α)) → preorderUpToList stop ts =
      ((lineageList above ts).filter fun l => !l.1.any stop).map Prod.snd
  | [] => by rw [preorderUpToList, lineageList, List.filter_nil, List.map_nil]
  | t :: ts => by
      rw [preorderUpToList, lineageList, List.filter_append, List.map_append,
        preorderUpTo_eq_filter h t, preorderUpToList_eq_filter h ts]

end

/-! ## Subtrees that stay as they are -/

variable {spare : α → Bool} {R : α → α → Prop}

mutual

/-- The second tree is the first with related values, where the subtrees of the spared values are
the same. -/
inductive Spared (spare : α → Bool) (R : α → α → Prop) : Tree α → Tree α → Prop where
  | same {value : α} {children : List (Tree α)} : spare value →
      Spared spare R (.node value children) (.node value children)
  | node {value value' : α} {children children' : List (Tree α)} : spare value = false →
      R value value' → SparedList spare R children children' →
      Spared spare R (.node value children) (.node value' children')

inductive SparedList (spare : α → Bool) (R : α → α → Prop) :
    List (Tree α) → List (Tree α) → Prop where
  | nil : SparedList spare R [] []
  | cons {t t' : Tree α} {ts ts' : List (Tree α)} : Spared spare R t t' →
      SparedList spare R ts ts' → SparedList spare R (t :: ts) (t' :: ts')

end

/-- The value at the root is the same or related. -/
theorem Spared.value {t t' : Tree α} (h : Spared spare R t t') :
    t'.value = t.value ∨ R t.value t'.value := by
  cases h with
  | same h => exact .inl rfl
  | node h hR hs => exact .inr hR

mutual

/-- The trees have the same shape. -/
theorem Spared.levels_fst (depth : Nat) : {t t' : Tree α} → Spared spare R t t' →
    (levels depth t').map Prod.fst = (levels depth t).map Prod.fst
  | _, _, .same _ => rfl
  | .node _ _, .node _ _, .node _ _ h => by
      rw [levels, levels, List.map_cons, List.map_cons, h.levelsList_fst (depth + 1)]

theorem SparedList.levelsList_fst (depth : Nat) : {ts ts' : List (Tree α)} →
    SparedList spare R ts ts' →
    (levelsList depth ts').map Prod.fst = (levelsList depth ts).map Prod.fst
  | _, _, .nil => rfl
  | _ :: _, _ :: _, .cons h hs => by
      rw [levelsList, levelsList, List.map_append, List.map_append, h.levels_fst depth,
        hs.levelsList_fst depth]

end

/-- A value that is spared or below a spared one is the same; all others are related. -/
def SparedAt (spare : α → Bool) (R : α → α → Prop) (l : List α × α) (value : α) : Prop :=
  if (l.2 :: l.1).any spare then value = l.2 else R l.2 value

theorem sparedAt_of_any {l : List α × α} (h : (l.2 :: l.1).any spare) : SparedAt spare R l l.2 := by
  rw [SparedAt, if_pos h]

/-- Everything below a spared value is the same. -/
theorem forall₂_sparedAt_of_any {above : List α} (h : above.any spare) (ts : List (Tree α)) :
    List.Forall₂ (SparedAt spare R) (lineageList above ts) (preorderList ts) := by
  rw [← lineageList_map_snd above ts, List.forall₂_map_right_iff, List.forall₂_same]
  intro l hl
  refine sparedAt_of_any ?_
  rw [List.any_cons, any_of_mem_lineageList h hl, Bool.or_true]

mutual

theorem Spared.forall₂ {above : List α} (habove : above.any spare = false) : {t t' : Tree α} →
    Spared spare R t t' → List.Forall₂ (SparedAt spare R) (t.lineage above) t'.preorder
  | .node value children, _, .same h => by
      have hany : (value :: above).any spare := by rw [List.any_cons, h, Bool.true_or]
      rw [lineage, preorder]
      exact .cons (sparedAt_of_any hany) (forall₂_sparedAt_of_any hany children)
  | .node value _, .node _ _, .node h hR hs => by
      have hany : (value :: above).any spare = false := by rw [List.any_cons, h, habove]; rfl
      rw [lineage, preorder]
      refine .cons ?_ (hs.forall₂ hany)
      rwa [SparedAt, hany]

theorem SparedList.forall₂ {above : List α} (habove : above.any spare = false) :
    {ts ts' : List (Tree α)} → SparedList spare R ts ts' →
    List.Forall₂ (SparedAt spare R) (lineageList above ts) (preorderList ts')
  | _, _, .nil => .nil
  | _ :: _, _ :: _, .cons h hs => by
      rw [lineageList, preorderList]
      exact List.rel_append (h.forall₂ habove) (hs.forall₂ habove)

end

/-- What is related value by value is related at every place. -/
theorem getElem?_of_forall₂ {β : Type} {S : α → β → Prop} {as : List α} {bs : List β}
    (h : List.Forall₂ S as bs) {i : Nat} {a : α} (ha : as[i]? = some a) :
    ∃ b, bs[i]? = some b ∧ S a b := by
  induction h generalizing i with
  | nil => cases ha
  | cons hab _ ih =>
      cases i with
      | zero =>
          obtain rfl := Option.some.inj ha
          exact ⟨_, rfl, hab⟩
      | succ i => exact ih ha

end MiniJava.Tree
