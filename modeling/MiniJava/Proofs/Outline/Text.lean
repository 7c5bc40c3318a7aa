import MiniJava.Layout.Line

/-!
Indented text read back. Each line ends at its first newline, since it has none of its own, and the
spaces that it starts with are its depth, since none of them is its own.
-/
namespace MiniJava

/-- A list is cut in one way at the first occurrence of an element. -/
theorem append_cons_inj {α : Type} {a : α} {as as' bs bs' : List α} (ha : a ∉ as) (ha' : a ∉ as')
    (h : as ++ a :: bs = as' ++ a :: bs') : as = as' ∧ bs = bs' := by
  induction as generalizing as' with
  | nil =>
      cases as' with
      | nil => exact ⟨rfl, (List.cons.inj h).2⟩
      | cons c as' =>
          have hc : a = c := (List.cons.inj h).1
          exact absurd (hc ▸ List.mem_cons_self) ha'
  | cons c as ih =>
      cases as' with
      | nil =>
          have hc : c = a := (List.cons.inj h).1
          exact absurd (hc ▸ List.mem_cons_self) ha
      | cons c' as' =>
          rw [List.cons_append, List.cons_append, List.cons.injEq] at h
          obtain ⟨rfl, hrest⟩ := h
          obtain ⟨rfl, rfl⟩ := ih (fun hm => ha (.tail c hm)) (fun hm => ha' (.tail c hm)) hrest
          exact ⟨rfl, rfl⟩

/-- A list starts with one number of copies of an element. -/
theorem replicate_append_inj {α : Type} {a : α} {n n' : Nat} {bs bs' : List α}
    (hb : bs.head? ≠ some a) (hb' : bs'.head? ≠ some a)
    (h : List.replicate n a ++ bs = List.replicate n' a ++ bs') : n = n' ∧ bs = bs' := by
  induction n generalizing n' with
  | zero =>
      cases n' with
      | zero => exact ⟨rfl, h⟩
      | succ n' => exact absurd (congrArg List.head? h) hb
  | succ n ih =>
      cases n' with
      | zero => exact absurd (congrArg List.head? h.symm) hb'
      | succ n' =>
          obtain ⟨rfl, hrest⟩ := ih (List.cons.inj h).2
          exact ⟨rfl, hrest⟩

/-- The line is not blank, and its text has no newline and does not start with a space. -/
def Line.Legible : Line → Prop
  | .code _ text => '\n' ∉ text.toList ∧ text.toList.head? ≠ some ' '
  | .blank => False

theorem Line.text_ne_empty (width level : Nat) (l : Line) : l.text width level ≠ "" := by
  cases l <;> simp [Line.text]

theorem Lines.text_cons_ne_nil (width level : Nat) (l : Line) (ls : List Line) :
    text width level (l :: ls) ≠ text width level [] := by
  rw [text_cons]
  exact fun h => l.text_ne_empty width level (String.append_eq_empty_iff.mp h).1

section

variable {width level : Nat} (hw : 1 ≤ width)
include hw

theorem Line.text_append_inj {l l' : Line} (hl : l.Legible) (hl' : l'.Legible) {cs cs' : List Char}
    (h : (l.text width level).toList ++ cs = (l'.text width level).toList ++ cs') :
    l = l' ∧ cs = cs' := by
  obtain ⟨depth, text⟩ | - := l
  case blank => exact hl.elim
  obtain ⟨depth', text'⟩ | - := l'
  case blank => exact hl'.elim
  -- The newline that `Line.text` adds is the first one, since spaces and text have none.
  have hspaces (n : Nat) {cs : List Char} (h : '\n' ∉ cs) : '\n' ∉ (spaces n).toList ++ cs := by
    simp [spaces, h]
  simp only [Line.text, String.toList_append, String.reduceToList, List.append_assoc _ ['\n'],
    List.singleton_append] at h
  obtain ⟨hline, hrest⟩ := append_cons_inj (hspaces _ hl.1) (hspaces _ hl'.1) h
  rw [spaces, spaces, String.toList_ofList, String.toList_ofList] at hline
  obtain ⟨hwidth, htext⟩ := replicate_append_inj hl.2 hl'.2 hline
  have hdepth : depth = depth' := Nat.add_left_cancel (Nat.eq_of_mul_eq_mul_right hw hwidth)
  exact ⟨by rw [hdepth, String.toList_inj.mp htext], hrest⟩

theorem Lines.text_inj {ls ls' : List Line} (hls : ∀ l ∈ ls, l.Legible)
    (hls' : ∀ l ∈ ls', l.Legible) (h : text width level ls = text width level ls') : ls = ls' := by
  induction ls generalizing ls' with
  | nil =>
      cases ls' with
      | nil => rfl
      | cons l' ls' => exact absurd h.symm (text_cons_ne_nil width level l' ls')
  | cons l ls ih =>
      cases ls' with
      | nil => exact absurd h (text_cons_ne_nil width level l ls)
      | cons l' ls' =>
          rw [List.forall_mem_cons] at hls hls'
          have happend : (l.text width level).toList ++ (text width level ls).toList =
              (l'.text width level).toList ++ (text width level ls').toList := by
            rw [← String.toList_append, ← text_cons, h, text_cons, String.toList_append]
          obtain ⟨rfl, hrest⟩ := Line.text_append_inj hw hls.1 hls'.1 happend
          rw [ih hls.2 hls'.2 (String.toList_inj.mp hrest)]

end

end MiniJava
