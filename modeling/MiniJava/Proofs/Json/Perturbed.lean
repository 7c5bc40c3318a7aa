import Mathlib.Data.List.Forall2
import MiniJava.Json.Decode
import MiniJava.Json.Encode

/-!
Changes to a JSON document that carry no meaning: in records, null members that may be left out are
removed, members of other names are added, and the members come in another order. An object that
tells which construct it is has one member and keeps it. Under the name of each of its fields, a
changed record holds what it held before, changed in the same way.
-/
namespace MiniJava.Json

/-- The members that may be left out when they are null. -/
def omittable : List String := ["file", "else_branch"]

/-- The names that tell which construct an object is. -/
def constructs : List String := Ty.variants ++ Expr.variants ++ Stmt.variants ++ ClassDecl.variants

/-- The names can be the fields of one record: they are distinct, and none tells a construct. -/
def AreFields (names : List String) : Prop := names.Nodup ∧ ∀ name ∈ names, name ∉ constructs

instance (names : List String) : Decidable (AreFields names) :=
  inferInstanceAs (Decidable (_ ∧ _))

/-- The members of a record, each with a related value or left out where that is allowed. -/
inductive Kept (R : Json → Json → Prop) : List (String × Json) → List (String × Json) → Prop where
  | nil : Kept R [] []
  | keep {name : String} {v v' : Json} {ms ms' : List (String × Json)} :
    R v v' → Kept R ms ms' → Kept R ((name, v) :: ms) ((name, v') :: ms')
  | drop {name : String} {ms ms' : List (String × Json)} :
    name ∈ omittable → Kept R ms ms' → Kept R ((name, .null) :: ms) ms'

/-- The second document is the first after changes that carry no meaning. -/
inductive Perturbed : Json → Json → Prop where
  | refl (j : Json) : Perturbed j j
  | array {items items' : List Json} :
    List.Forall₂ Perturbed items items' → Perturbed (.array items) (.array items')
  | construct {name : String} {v v' : Json} :
    name ∈ constructs → Perturbed v v' → Perturbed (tagged name v) (tagged name v')
  | record {ms ms' added ms'' : List (String × Json)} :
    (∀ name ∈ ms.map Prod.fst, name ∉ constructs) → Kept Perturbed ms ms' →
      (∀ name ∈ added.map Prod.fst, name ∉ ms.map Prod.fst) → (ms' ++ added).Perm ms'' →
      Perturbed (.object ms) (.object ms'')

/-! ## The members of a changed record -/

/-- The members of the name. -/
def membersOf (name : String) (ms : List (String × Json)) : List (String × Json) :=
  ms.filter (·.1 == name)

theorem membersOf_eq_nil {name : String} {ms : List (String × Json)}
    (h : name ∉ ms.map Prod.fst) : membersOf name ms = [] := by
  refine List.filter_eq_nil_iff.mpr fun m hm hname => h ?_
  exact eq_of_beq hname ▸ List.mem_map_of_mem hm

/-- Under the name there is one member, related to the value, or none if that may be left out. -/
def Finds (R : Json → Json → Prop) (ms : List (String × Json)) (name : String) (v : Json) : Prop :=
  (∃ v', R v v' ∧ membersOf name ms = [(name, v')]) ∨
    name ∈ omittable ∧ v = .null ∧ membersOf name ms = []

namespace Kept

variable {R : Json → Json → Prop} {ms ms' : List (String × Json)} {name : String} {v : Json}

theorem names_subset (h : Kept R ms ms') : ms'.map Prod.fst ⊆ ms.map Prod.fst := by
  induction h with
  | nil => exact List.Subset.refl _
  | keep _ _ ih => exact List.cons_subset_cons _ ih
  | drop _ _ ih => exact List.subset_cons_of_subset _ ih

theorem finds (h : Kept R ms ms') (hn : (ms.map Prod.fst).Nodup) (hm : (name, v) ∈ ms) :
    Finds R ms' name v := by
  induction h with
  | nil => cases hm
  | @keep n w w' ms ms' hw hrest ih =>
      obtain ⟨hnot, hn⟩ := List.nodup_cons.mp hn
      rcases List.mem_cons.mp hm with heq | hm
      · cases heq
        refine .inl ⟨w', hw, ?_⟩
        rw [membersOf, List.filter_cons_of_pos (by simp)]
        exact congrArg _ (membersOf_eq_nil fun h => hnot (hrest.names_subset h))
      · have hname : name ∈ ms.map Prod.fst := List.mem_map_of_mem hm
        have hne := ne_of_mem_of_not_mem hname hnot
        rw [Finds, membersOf, List.filter_cons_of_neg (by simpa using hne.symm)]
        exact ih hn hm
  | drop ho hrest ih =>
      obtain ⟨hnot, hn⟩ := List.nodup_cons.mp hn
      rcases List.mem_cons.mp hm with heq | hm
      · cases heq
        exact .inr ⟨ho, rfl, membersOf_eq_nil fun h => hnot (hrest.names_subset h)⟩
      · exact ih hn hm

/-- Nothing is changed when every member is kept. -/
theorem same (hR : ∀ j, R j j) : ∀ ms : List (String × Json), Kept R ms ms
  | [] => .nil
  | (_, v) :: ms => .keep (hR v) (same hR ms)

end Kept

namespace Finds

variable {R : Json → Json → Prop} {ms ms' : List (String × Json)} {name : String} {v : Json}

/-- What is found depends on the members of the name only. -/
theorem congr (h : Finds R ms name v) (hms : (membersOf name ms).Perm (membersOf name ms')) :
    Finds R ms' name v := by
  rcases h with ⟨v', hv, hm⟩ | ⟨ho, hv, hm⟩
  · rw [hm, List.singleton_perm] at hms
    exact .inl ⟨v', hv, hms.symm⟩
  · rw [hm, List.nil_perm] at hms
    exact .inr ⟨ho, hv, hms⟩

/-- Neither members of other names nor the order of the members matter. -/
theorem among {added : List (String × Json)} (h : Finds R ms name v)
    (hname : name ∉ added.map Prod.fst) (hp : (ms ++ added).Perm ms') : Finds R ms' name v := by
  refine h.congr ?_
  have hfilter : (membersOf name (ms ++ added)).Perm (membersOf name ms') := hp.filter _
  rwa [membersOf, List.filter_append, ← membersOf, ← membersOf, membersOf_eq_nil hname,
    List.append_nil] at hfilter

end Finds

/-! ## What a changed document can be -/

namespace Perturbed

variable {j v : Json}

theorem eq_null (h : Perturbed v .null) : v = .null := by cases h; rfl

theorem null_eq (h : Perturbed .null j) : j = .null := by cases h; rfl

theorem string_eq {s : String} (h : Perturbed (.string s) j) : j = .string s := by cases h; rfl

theorem int_eq {n : Int} (h : Perturbed (.int n) j) : j = .int n := by cases h; rfl

theorem array_cases {items : List Json} (h : Perturbed (.array items) j) :
    ∃ items', j = .array items' ∧ List.Forall₂ Perturbed items items' := by
  cases h with
  | refl => exact ⟨items, rfl, List.forall₂_same.mpr fun v _ => .refl v⟩
  | array h => exact ⟨_, rfl, h⟩

theorem construct_cases {name : String} (hc : name ∈ constructs) (h : Perturbed (tagged name v) j) :
    ∃ v', j = tagged name v' ∧ Perturbed v v' := by
  generalize hd : tagged name v = d at h
  cases h with
  | refl => exact ⟨v, hd.symm, .refl v⟩
  | array => cases hd
  | construct _ hv => cases hd; exact ⟨_, rfl, hv⟩
  | record hn => cases hd; exact absurd hc (hn name List.mem_cons_self)

/-- Every field of the record is found in the changed one. -/
theorem record_cases {ms : List (String × Json)} (h : Perturbed (.object ms) j)
    (names : List String) (hnames : ms.map Prod.fst = names) (hfields : AreFields names) :
    ∃ ms', j = .object ms' ∧ ms.Forall fun m => Finds Perturbed ms' m.1 m.2 := by
  obtain ⟨hn, hc⟩ := hnames ▸ hfields
  simp only [List.forall_iff_forall_mem]
  generalize hd : Json.object ms = d at h
  cases h with
  | refl => exact ⟨ms, hd.symm, fun m hm => (Kept.same .refl ms).finds hn hm⟩
  | array => cases hd
  | construct hname => cases hd; exact absurd hname (hc _ List.mem_cons_self)
  | record _ hkept hadded hp =>
      cases hd
      refine ⟨_, rfl, fun m hm => (hkept.finds hn hm).among (fun hname => ?_) hp⟩
      exact hadded m.1 hname (List.mem_map_of_mem hm)

end Perturbed

end MiniJava.Json
