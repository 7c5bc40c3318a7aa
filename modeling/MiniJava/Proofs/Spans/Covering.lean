import Mathlib.Data.Prod.Lex
import Mathlib.Order.MinMax
import MiniJava.Position

/-!
Spans ordered by what they cover. The merge of two spans is the least span that covers both. Two
locations may be at one place and differ in their files; a merge then keeps that of the first span,
so that it associates as it stands, but commutes only where the files agree.
-/
namespace MiniJava

/-! ## The first of the least -/

section

variable {α β : Type} [LinearOrder β] (key : α → β)

/-- The one with the lesser key; of two with the same key the first. -/
def leastBy (a b : α) : α := if key b < key a then b else a

variable {key}

theorem leastBy_of_lt {a b : α} (h : key b < key a) : leastBy key a b = b := if_pos h

theorem leastBy_of_le {a b : α} (h : key a ≤ key b) : leastBy key a b = a := if_neg h.not_gt

theorem key_leastBy (key : α → β) (a b : α) :
    key (leastBy key a b) = min (key a) (key b) := by
  rcases lt_or_ge (key b) (key a) with hlt | hle
  · rw [leastBy_of_lt hlt, min_eq_right hlt.le]
  · rw [leastBy_of_le hle, min_eq_left hle]

theorem leastBy_self (a : α) : leastBy key a a = a := leastBy_of_le le_rfl

theorem leastBy_assoc (a b c : α) :
    leastBy key (leastBy key a b) c = leastBy key a (leastBy key b c) := by
  rcases lt_or_ge (key b) (key a) with hba | hab
  · rw [leastBy_of_lt hba]
    rcases lt_or_ge (key c) (key b) with hcb | hbc
    · rw [leastBy_of_lt hcb, leastBy_of_lt (hcb.trans hba)]
    · rw [leastBy_of_le hbc, leastBy_of_lt hba]
  · rw [leastBy_of_le hab]
    rcases lt_or_ge (key c) (key b) with hcb | hbc
    · rw [leastBy_of_lt hcb]
    · rw [leastBy_of_le hbc, leastBy_of_le hab, leastBy_of_le (hab.trans hbc)]

/-- The order of the two matters only where they have the same key. -/
theorem leastBy_comm_iff {a b : α} :
    leastBy key a b = leastBy key b a ↔ (key a = key b → a = b) := by
  rcases lt_trichotomy (key a) (key b) with hlt | heq | hgt
  · rw [leastBy_of_le hlt.le, leastBy_of_lt hlt]
    exact iff_of_true rfl fun heq => absurd heq hlt.ne
  · rw [leastBy_of_le heq.le, leastBy_of_le heq.ge]
    exact ⟨fun h _ => h, fun h => h heq⟩
  · rw [leastBy_of_lt hgt, leastBy_of_le hgt.le]
    exact iff_of_true rfl fun heq => absurd heq hgt.ne'

end

/-! ## Places -/

namespace Location

/-- Where the location is in its text: places are ordered by line, those of a line by column. -/
def place (l : Location) : ℕ ×ₗ ℕ := toLex (l.line.toNat, l.column.toNat)

theorem before_iff {a b : Location} : a.Before b ↔ a.place < b.place := by
  rw [Before, place, place, Prod.Lex.toLex_lt_toLex, UInt64.lt_iff_toNat_lt,
    UInt64.lt_iff_toNat_lt, UInt64.toNat_inj]

/-- A location is a place in a file. -/
theorem eq_of_place {a b : Location} (hplace : a.place = b.place) (hfile : a.file = b.file) :
    a = b := by
  obtain ⟨file, line, column⟩ := a
  obtain ⟨file', line', column'⟩ := b
  have hpair := toLex_inj.mp hplace
  rw [Prod.mk.injEq, UInt64.toNat_inj, UInt64.toNat_inj] at hpair
  obtain ⟨rfl, rfl⟩ := hpair
  exact congrArg (Location.mk · line column) hfile

end Location

namespace Span

/-! ## Covering -/

/-- The span starts no later than the other one and stops no earlier. -/
structure Covers (s t : Span) : Prop where
  start_le : s.start.place ≤ t.start.place
  le_stop : t.stop.place ≤ s.stop.place

/-- The span starts no later than it stops. -/
def Forward (s : Span) : Prop := s.start.place ≤ s.stop.place

/-- The span starts and stops in the file, or in none. -/
def InFile (file : Option String) (s : Span) : Prop := s.start.file = file ∧ s.stop.file = file

theorem Covers.refl (s : Span) : s.Covers s := ⟨le_rfl, le_rfl⟩

theorem Covers.forward {s t : Span} (h : s.Covers t) (ht : t.Forward) : s.Forward :=
  h.start_le.trans (ht.trans h.le_stop)

/-! ## Merging -/

/-- The place of a location, where later ones are less. -/
def lateness (l : Location) : (ℕ ×ₗ ℕ)ᵒᵈ := OrderDual.toDual l.place

theorem merge_eq (a b : Span) :
    a.merge b = ⟨leastBy Location.place a.start b.start, leastBy lateness a.stop b.stop⟩ := by
  have hstart : (if b.start.Before a.start then b.start else a.start) =
      leastBy Location.place a.start b.start := if_congr Location.before_iff rfl rfl
  have hstop : (if a.stop.Before b.stop then b.stop else a.stop) =
      leastBy lateness a.stop b.stop := if_congr Location.before_iff rfl rfl
  rw [merge, hstart, hstop]

theorem start_merge (a b : Span) :
    (a.merge b).start.place = min a.start.place b.start.place := by
  rw [merge_eq]
  exact key_leastBy Location.place a.start b.start

theorem stop_merge (a b : Span) : (a.merge b).stop.place = max a.stop.place b.stop.place := by
  rw [merge_eq]
  exact key_leastBy lateness a.stop b.stop

theorem covers_merge_iff {s a b : Span} : s.Covers (a.merge b) ↔ s.Covers a ∧ s.Covers b := by
  constructor
  · intro h
    have hstart := h.start_le
    have hstop := h.le_stop
    rw [start_merge, le_min_iff] at hstart
    rw [stop_merge, max_le_iff] at hstop
    exact ⟨⟨hstart.1, hstop.1⟩, ⟨hstart.2, hstop.2⟩⟩
  · rintro ⟨ha, hb⟩
    constructor
    · rw [start_merge]
      exact le_min ha.start_le hb.start_le
    · rw [stop_merge]
      exact max_le ha.le_stop hb.le_stop

theorem merge_assoc (a b c : Span) : (a.merge b).merge c = a.merge (b.merge c) := by
  simp only [merge_eq, leastBy_assoc]

theorem merge_self (a : Span) : a.merge a = a := by
  rw [merge_eq, leastBy_self, leastBy_self]

/-- The order of two spans matters only where they start, or stop, at one place of two files. -/
theorem merge_comm_iff {a b : Span} : a.merge b = b.merge a ↔
    (a.start.place = b.start.place → a.start.file = b.start.file) ∧
      (a.stop.place = b.stop.place → a.stop.file = b.stop.file) := by
  have hlocation {l l' : Location} :
      (l.place = l'.place → l = l') ↔ (l.place = l'.place → l.file = l'.file) :=
    ⟨fun h hplace => congrArg Location.file (h hplace),
      fun h hplace => Location.eq_of_place hplace (h hplace)⟩
  rw [merge_eq, merge_eq, Span.mk.injEq, leastBy_comm_iff, leastBy_comm_iff]
  exact and_congr hlocation hlocation

example :
    let a := single ⟨some "A.java", 1, 1⟩
    let b := single ⟨some "B.java", 1, 1⟩
    a.merge b ≠ b.merge a := by decide

/-- Merging is associative and idempotent, files included; the merge of two spans covers both, and
every span that covers both covers it; it does not stop before it starts unless both spans do; and
within one file the order of the two does not matter. -/
theorem merge_least_cover (a b c : Span) :
    (a.merge b).merge c = a.merge (b.merge c) ∧ a.merge a = a ∧
      (a.merge b).Covers a ∧ (a.merge b).Covers b ∧
      (∀ s : Span, s.Covers a → s.Covers b → s.Covers (a.merge b)) ∧
      (a.Forward ∨ b.Forward → (a.merge b).Forward) ∧
      ∀ file, a.InFile file → b.InFile file → a.merge b = b.merge a := by
  obtain ⟨ha, hb⟩ := covers_merge_iff.mp (Covers.refl (a.merge b))
  refine ⟨merge_assoc a b c, merge_self a, ha, hb, ?_, ?_, ?_⟩
  · intro s hsa hsb
    exact covers_merge_iff.mpr ⟨hsa, hsb⟩
  · intro h
    cases h with
    | inl h => exact ha.forward h
    | inr h => exact hb.forward h
  · intro file hfa hfb
    rw [merge_comm_iff]
    exact ⟨fun _ => hfa.1.trans hfb.1.symm, fun _ => hfa.2.trans hfb.2.symm⟩

end Span

end MiniJava
