import Mathlib.Data.List.Basic
import MiniJava.Proofs.Json.Perturbed

/-!
How the readers go through a changed document. A value is read back when it is read from every
change of its document; records, lists, constructs and located syntax are read back when what they
hold is.
-/
namespace MiniJava.Json

variable {α β : Type}

/-- The value is read from every change of the document. -/
def ReadsBack (read : Json → Decode α) (doc : Json) (a : α) : Prop :=
  ∀ j, Perturbed doc j → read j = .ok a

theorem map_parts (items : List Json) : (parts items).map Subtype.val = items := by
  rw [parts, List.map_map]
  exact List.attach_map_subtype_val items

/-! ## Fields by name -/

theorem map_namedParts (ms : List (String × Json)) :
    (namedParts ms).map (fun m => (m.1, m.2.1)) = ms := by
  rw [namedParts, List.map_map]
  exact List.attach_map_subtype_val ms

/-- The value of a field is that of the first member of the name. -/
theorem value?_named (ms : List (String × Json)) (position : Nat) (name : String) :
    ((Fields.named (namedParts ms)).value? position name).map Subtype.val =
      (membersOf name ms).head?.map Prod.snd := by
  rw [membersOf, List.head?_filter]
  conv => rhs; rw [← map_namedParts ms, List.find?_map, Option.map_map]
  rw [Fields.value?, Option.map_map]
  rfl

namespace Finds

variable {ms : List (String × Json)} {name : String} {v : Json} {read : Json → Decode α} {a : α}
  {position : Nat}

/-- A member that may not be left out is there, and is what the field has for a value. -/
theorem value? (h : Finds Perturbed ms name v) (hv : name ∉ omittable ∨ v ≠ .null) (position : Nat) :
    ∃ part, (Fields.named (namedParts ms)).value? position name = some part ∧
      Perturbed v part.1 := by
  rcases h with ⟨v', hv', hms⟩ | ⟨ho, hnull, _⟩
  · have hval := value?_named ms position name
    rw [hms] at hval
    obtain ⟨part, hpart, rfl⟩ := Option.map_eq_some_iff.mp hval
    exact ⟨part, hpart, hv'⟩
  · exact (hv.elim (· ho) (· hnull)).elim

theorem field (h : Finds Perturbed ms name v) (hread : ReadsBack read v a)
    (ho : name ∉ omittable := by simp [Json.omittable]) :
    (Fields.named (namedParts ms)).field position name (fun w _ => read w) = .ok a := by
  obtain ⟨part, hpart, hv⟩ := h.value? (.inl ho) position
  simp only [Fields.field, hpart, hread part.1 hv]
  rfl

theorem field?_some (h : Finds Perturbed ms name v) (hread : ReadsBack read v a) (hnull : v ≠ .null) :
    (Fields.named (namedParts ms)).field? position name (fun w _ => read w) = .ok (some a) := by
  obtain ⟨⟨w, hw⟩, hpart, hv⟩ := h.value? (.inr hnull) position
  have hne : w ≠ .null := by
    rintro rfl
    exact hnull hv.eq_null
  simp only [Fields.field?, hpart]
  cases w with
  | null => exact absurd rfl hne
  | _ => simp only [hread _ hv]; rfl

/-- A null member is none, whether it is there or not. -/
theorem field?_none (h : Finds Perturbed ms name .null) :
    (Fields.named (namedParts ms)).field? position name (fun w _ => read w) = .ok none := by
  have hval := value?_named ms position name
  rcases h with ⟨v', hv', hms⟩ | ⟨_, _, hms⟩
  · rw [hms] at hval
    obtain ⟨⟨w, hw⟩, hpart, rfl⟩ := Option.map_eq_some_iff.mp hval
    obtain rfl := hv'.null_eq
    simp only [Fields.field?, hpart]
  · rw [hms] at hval
    simp only [Fields.field?, Option.map_eq_none_iff.mp hval]

theorem string? {s? : Option String} (h : Finds Perturbed ms name (ofString? s?)) :
    (Fields.named (namedParts ms)).field? position name (fun w _ => readString w) = .ok s? := by
  cases s? with
  | none => exact h.field?_none
  | some s => exact h.field?_some (fun j hj => by rw [hj.string_eq, readString]) nofun

end Finds

theorem Fields.both_ok {j : Json} {f : Fields j} {x : Except Fault α} {y : Except Fault β} {a : α}
    {b : β} (hx : x = .ok a) (hy : y = .ok b) : f.both x y = .ok (a, b) := by
  rw [hx, hy]
  rfl

theorem Fields.map_ok {x : Except Fault α} {f : α → β} {a : α} {b : β} (hx : x = .ok a)
    (hf : f a = b) : x.map f = .ok b := by
  rw [hx, ← hf]
  rfl

/-! ## Records, lists and constructs -/

theorem record_ok {ms : List (String × Json)} {name : String} {fields : Nat}
    {read : Fields (.object ms) → Except Fault α} {a : α}
    (h : read (.named (namedParts ms)) = .ok a) :
    (Json.object ms).record name fields read = .ok a := by
  simp only [record, h]

namespace ReadsBack

theorem construct {read : Json → Decode α} {name : String} {v : Json} {a : α}
    (hname : name ∈ constructs) (hread : ∀ w, Perturbed v w → read (tagged name w) = .ok a) :
    ReadsBack read (tagged name v) a := by
  intro j hj
  obtain ⟨w, rfl, hw⟩ := hj.construct_cases hname
  exact hread w hw

theorem string {read : Json → Decode α} {s : String} {a : α} (hread : read (.string s) = .ok a) :
    ReadsBack read (.string s) a := by
  intro j hj
  rw [hj.string_eq, hread]

theorem int {read : Json → Decode α} {n : Int} {a : α} (hread : read (.int n) = .ok a) :
    ReadsBack read (.int n) a := by
  intro j hj
  rw [hj.int_eq, hread]

theorem list {read : Json → Decode α} {encode : α → Json} {as : List α}
    (hread : ∀ a ∈ as, ReadsBack read (encode a) a) :
    ReadsBack (fun j => j.list fun v _ => read v) (.array (as.map encode)) as := by
  intro j hj
  obtain ⟨items, rfl, hitems⟩ := hj.array_cases
  show (parts items).mapM (read ∘ Subtype.val) = .ok as
  rw [← List.mapM_map, map_parts]
  clear hj
  -- the changed items are as many as the values, each a change of the document of one
  induction as generalizing items with
  | nil => cases hitems; rfl
  | cons a as ih =>
      cases hitems with
      | cons hv hitems =>
          rw [List.mapM_cons, hread a List.mem_cons_self _ hv,
            ih (fun b hb => hread b (List.mem_cons_of_mem a hb)) _ hitems]
          rfl

theorem located {read : Json → Decode α} {node : Json} {a : α} (hread : ReadsBack read node a)
    {span : Json} {s : Span} (hspan : ReadsBack Span.decode span s) :
    ReadsBack (fun j => j.readLocated fun v _ => read v)
      (.object [("node", node), ("span", span)]) ⟨a, s⟩ := by
  intro j hj
  obtain ⟨ms, rfl, hnode, hspan'⟩ := hj.record_cases ["node", "span"] rfl (by decide)
  exact record_ok (Fields.map_ok (Fields.both_ok (hnode.field hread) (hspan'.field hspan)) rfl)

end ReadsBack

end MiniJava.Json
