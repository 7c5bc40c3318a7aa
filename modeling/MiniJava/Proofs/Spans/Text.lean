import Mathlib.Data.Set.Function
import MiniJava.Position
import MiniJava.Proofs.Outline.Text

/-!
Texts of locations and spans. A location can be read back from the right: its column is what follows
the last colon, and its line is what follows the colon before that, however many colons and digits
its file has. A span can be read back too unless a file has a dash, which could pass for the dash
between two locations.
-/
namespace MiniJava

namespace Location

/-! ## Numbers -/

def digits (n : UInt64) : List Char := Nat.toDigits 10 n.toNat

theorem digits_injective : Function.Injective digits := by
  intro m n h
  have hvalue : Nat.ofDigitChars 10 (digits m) 0 = Nat.ofDigitChars 10 (digits n) 0 := by rw [h]
  rw [digits, digits, Nat.ofDigitChars_ten_toDigits, Nat.ofDigitChars_ten_toDigits] at hvalue
  exact UInt64.toNat_inj.mp hvalue

theorem notMem_digits {c : Char} (h : ¬c.isDigit) (n : UInt64) : c ∉ digits n :=
  fun hmem => h (Nat.isDigit_of_mem_toDigits (by decide) (by decide) hmem)

theorem colon_notMem_digits (n : UInt64) : ':' ∉ digits n := notMem_digits (by decide) n

/-- A number is what follows the last colon. -/
theorem append_digits_inj {cs cs' : List Char} {m n : UInt64}
    (h : cs ++ ':' :: digits m = cs' ++ ':' :: digits n) : cs = cs' ∧ m = n := by
  have hnotMem (n : UInt64) : ':' ∉ (digits n).reverse := by
    rw [List.mem_reverse]
    exact colon_notMem_digits n
  have hreverse : (digits m).reverse ++ ':' :: cs.reverse =
      (digits n).reverse ++ ':' :: cs'.reverse := by
    simpa using congrArg List.reverse h
  obtain ⟨hdigits, hcs⟩ := append_cons_inj (hnotMem m) (hnotMem n) hreverse
  exact ⟨List.reverse_inj.mp hcs, digits_injective (List.reverse_inj.mp hdigits)⟩

/-! ## Locations -/

/-- The text before the last colon. -/
def front (l : Location) : List Char :=
  match l.file with
  | some file => file.toList ++ ':' :: digits l.line
  | none => digits l.line

theorem toList_text (l : Location) : l.text.toList = l.front ++ ':' :: digits l.column := by
  obtain ⟨file?, line, column⟩ := l
  cases file? <;> simp [text, front, digits, Nat.toString_eq_repr, Nat.toList_repr]

/-- Without a file there is no colon left. -/
theorem front_inj {l l' : Location} (h : l.front = l'.front) :
    l.file = l'.file ∧ l.line = l'.line := by
  obtain ⟨file?, line, column⟩ := l
  obtain ⟨file?', line', column'⟩ := l'
  have colon_mem (cs ds : List Char) : ':' ∈ cs ++ ':' :: ds :=
    List.mem_append_right cs List.mem_cons_self
  cases file? with
  | none =>
      cases file?' with
      | none => exact ⟨rfl, digits_injective h⟩
      | some file' =>
          have hline : digits line = file'.toList ++ ':' :: digits line' := h
          exact absurd (hline ▸ colon_mem _ _) (colon_notMem_digits line)
  | some file =>
      cases file?' with
      | none =>
          have hline : file.toList ++ ':' :: digits line = digits line' := h
          exact absurd (hline ▸ colon_mem _ _) (colon_notMem_digits line')
      | some file' =>
          obtain ⟨hfile, hline⟩ := append_digits_inj h
          exact ⟨congrArg some (String.toList_inj.mp hfile), hline⟩

theorem text_injective : Function.Injective text := by
  intro l l' h
  have hlist := congrArg String.toList h
  rw [toList_text, toList_text] at hlist
  obtain ⟨hfront, hcolumn⟩ := append_digits_inj hlist
  obtain ⟨hfile, hline⟩ := front_inj hfront
  cases l
  cases l'
  cases hfile
  cases hline
  cases hcolumn
  rfl

/-- Digits and colons aside, a text has no characters but those of the file. -/
theorem notMem_text {c : Char} (hdigit : ¬c.isDigit) (hcolon : c ≠ ':') {l : Location}
    (h : ∀ file ∈ l.file, c ∉ file.toList) : c ∉ l.text.toList := by
  obtain ⟨file?, line, column⟩ := l
  rw [toList_text, front]
  cases file? with
  | none => simp [notMem_digits hdigit, hcolon]
  | some file => simp [notMem_digits hdigit, hcolon, h file rfl]

end Location

namespace Span

/-! ## Spans -/

/-- No file of the span has a dash in its name. -/
def Dashless (s : Span) : Prop := ∀ l ∈ [s.start, s.stop], ∀ file ∈ l.file, '-' ∉ file.toList

theorem text_of_eq {s : Span} (h : s.start = s.stop) : s.text = s.start.text := if_pos h

theorem Dashless.dash_notMem_text {s : Span} (h : s.Dashless) :
    '-' ∉ s.start.text.toList ∧ '-' ∉ s.stop.text.toList := by
  constructor
  · exact Location.notMem_text (by decide) (by decide) (h s.start (by simp))
  · exact Location.notMem_text (by decide) (by decide) (h s.stop (by simp))

theorem toList_text_of_ne {s : Span} (h : s.start ≠ s.stop) :
    s.text.toList = s.start.text.toList ++ '-' :: s.stop.text.toList := by
  rw [text, if_neg h]
  simp

/-- A text with a dash is that of two locations. -/
theorem dash_mem_text_iff {s : Span} (h : s.Dashless) : '-' ∈ s.text.toList ↔ s.start ≠ s.stop := by
  by_cases heq : s.start = s.stop
  · rw [text_of_eq heq]
    exact iff_of_false h.dash_notMem_text.1 (not_not_intro heq)
  · rw [toList_text_of_ne heq]
    exact iff_of_true (List.mem_append_right _ List.mem_cons_self) heq

end Span

/-- No two locations have the same text, whatever their files, and no two spans have if their files
have no dash. -/
theorem position_texts_unambiguous :
    Function.Injective Location.text ∧ Set.InjOn Span.text {s | s.Dashless} := by
  refine ⟨Location.text_injective, ?_⟩
  intro s hs t ht h
  have hdash : s.start ≠ s.stop ↔ t.start ≠ t.stop := by
    rw [← Span.dash_mem_text_iff hs, ← Span.dash_mem_text_iff ht, h]
  obtain ⟨start, stop⟩ := s
  obtain ⟨start', stop'⟩ := t
  by_cases heq : start = stop
  · have heq' : start' = stop' := not_not.mp fun hne => hdash.mpr hne heq
    rw [Span.text_of_eq heq, Span.text_of_eq heq'] at h
    have hstart : start = start' := Location.text_injective h
    rw [← heq, ← heq', hstart]
  · have hlist := congrArg String.toList h
    rw [Span.toList_text_of_ne heq, Span.toList_text_of_ne (hdash.mp heq)] at hlist
    obtain ⟨hbefore, hafter⟩ :=
      append_cons_inj (hs.dash_notMem_text).1 (ht.dash_notMem_text).1 hlist
    obtain rfl : start = start' := Location.text_injective (String.toList_inj.mp hbefore)
    obtain rfl : stop = stop' := Location.text_injective (String.toList_inj.mp hafter)
    rfl

/-- With a dash in a file a location could be taken for two. -/
example :
    let s := Span.single ⟨some "1:1-A.java", 2, 3⟩
    let t : Span := ⟨⟨none, 1, 1⟩, ⟨some "A.java", 2, 3⟩⟩
    s.text = t.text ∧ s ≠ t := by decide

end MiniJava
