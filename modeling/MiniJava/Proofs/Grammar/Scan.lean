import MiniJava.Proofs.Grammar.Token

/-!
Scanning text that is put together from pieces: what a word, a number or a symbol contributes,
whatever comes after it, and that a blank character splits a text into two that are scanned apart.
-/
namespace MiniJava

namespace Token

/-- The text does not go on with a character of the class. -/
def Ends (p : Char → Bool) (rest : List Char) : Prop := ∀ c ∈ rest.head?, p c = false

variable {p : Char → Bool} {rest : List Char}

@[simp] theorem ends_nil : Ends p [] := by
  intro c hc
  cases hc

@[simp] theorem ends_cons {c : Char} : Ends p (c :: rest) ↔ p c = false := by
  simp [Ends]

theorem takeWhile_append_of_ends (h : Ends p rest) (cs : List Char) :
    (cs ++ rest).takeWhile p = cs.takeWhile p := by
  induction cs with
  | nil =>
      cases rest with
      | nil => rfl
      | cons c rest => simp [ends_cons.mp h]
  | cons c cs ih => simp only [List.cons_append, List.takeWhile_cons, ih]

theorem dropWhile_append_of_ends (h : Ends p rest) (cs : List Char) :
    (cs ++ rest).dropWhile p = cs.dropWhile p ++ rest := by
  induction cs with
  | nil =>
      cases rest with
      | nil => rfl
      | cons c rest => simp [ends_cons.mp h]
  | cons c cs ih =>
      simp only [List.cons_append, List.dropWhile_cons, ih]
      split <;> rfl

theorem takeWhile_of_all {cs : List Char} (h : ∀ c ∈ cs, p c = true) : cs.takeWhile p = cs := by
  simpa using @List.takeWhile_append_of_pos _ p cs [] h

theorem dropWhile_of_all {cs : List Char} (h : ∀ c ∈ cs, p c = true) : cs.dropWhile p = [] := by
  simpa using @List.dropWhile_append_of_pos _ p cs [] h

/-- What starts the whole text starts what stands before its end. -/
theorem any_head?_append_of_ends (h : Ends p rest) (cs : List Char) :
    (cs ++ rest).head?.any p = cs.head?.any p := by
  cases cs with
  | nil =>
      cases rest with
      | nil => rfl
      | cons c rest => exact ends_cons.mp h
  | cons c cs => rfl

/-! ## Character classes -/

theorem inWord_of_isBlank {c : Char} (h : isBlank c = true) : inWord c = false := by
  simp only [isBlank, Bool.or_eq_true, beq_iff_eq] at h
  rcases h with ((rfl | rfl) | rfl) | rfl <;> decide

theorem inWord_of_isDigit {c : Char} (h : c.isDigit = true) : inWord c = true := by
  simp [inWord, Char.isAlphanum, h]

theorem isBlank_of_inWord {c : Char} (h : inWord c = true) : isBlank c = false := by
  cases hb : isBlank c with
  | false => rfl
  | true => rw [inWord_of_isBlank hb] at h; cases h

theorem inWord_of_startsWord {c : Char} (h : startsWord c = true) : inWord c = true := by
  simp only [startsWord, inWord, Char.isAlphanum, Bool.or_eq_true] at h ⊢
  exact h.imp_left .inl

theorem startsWord_of_isDigit {c : Char} (h : c.isDigit = true) : startsWord c = false := by
  have hle : c.toNat ≤ 57 := (Char.isDigit_iff_toNat.mp h).2
  cases hw : startsWord c with
  | false => rfl
  | true =>
      rcases (Bool.or_eq_true _ _).mp hw with halpha | hunder
      · rcases (Bool.or_eq_true _ _).mp halpha with hupper | hlower
        · have hge : 65 ≤ c.toNat := UInt32.le_iff_toNat_le.mp (of_decide_eq_true hupper).1
          omega
        · have hbounds := (Bool.and_eq_true _ _).mp hlower
          have hge : 97 ≤ c.toNat := UInt32.le_iff_toNat_le.mp (of_decide_eq_true hbounds.1)
          omega
      · rw [eq_of_beq hunder] at h
        cases h

theorem Ends.isDigit (h : Ends inWord rest) : Ends Char.isDigit rest := by
  intro c hc
  cases hd : c.isDigit with
  | false => rfl
  | true =>
      have hw := h c hc
      rw [inWord_of_isDigit hd] at hw
      cases hw

/-- What is known of a character that is a symbol by itself. -/
theorem classes_of_ofChar? {c : Char} {s : Symbol} (h : Symbol.ofChar? c = some s) :
    isBlank c = false ∧ startsWord c = false ∧ c.isDigit = false ∧ c ≠ '&' := by
  unfold Symbol.ofChar? at h
  split at h <;> first | decide | cases h

theorem inWord_of_ofChar? {c : Char} {s : Symbol} (h : Symbol.ofChar? c = some s) :
    inWord c = false := by
  unfold Symbol.ofChar? at h
  split at h <;> first | decide | cases h

/-! ## Scanning one token -/

variable {reserved : List Keyword}

@[simp] theorem scan_nil : scan reserved [] = [] := by rw [scan]

theorem scan_blank {c : Char} (h : isBlank c = true) (cs : List Char) :
    scan reserved (c :: cs) = scan reserved cs := by
  rw [scan, if_pos h]

@[simp] theorem scan_space (cs : List Char) : scan reserved (' ' :: cs) = scan reserved cs :=
  scan_blank rfl cs

theorem scan_symbol (c : Char) {s : Symbol} (h : Symbol.ofChar? c = some s) (cs : List Char)
    (hc : c ≠ '-' := by decide) : scan reserved (c :: cs) = .symbol s :: scan reserved cs := by
  obtain ⟨hb, hw, hd, ha⟩ := classes_of_ofChar? h
  rw [scan]
  simp [hb, hw, hd, ha, hc, h]

@[simp] theorem scan_minus (cs : List Char) :
    scan reserved ('-' :: ' ' :: cs) = .symbol .minus :: scan reserved cs := by
  have hdigit : ¬('-' = '-' ∧ (' ' :: cs).head?.any Char.isDigit = true) := by
    rintro ⟨_, h⟩
    cases h
  have hand : ¬('-' = '&' ∧ (' ' :: cs).head? = some '&') := by
    rintro ⟨h, _⟩
    cases h
  rw [scan, if_neg (by decide), if_neg (by decide), if_neg (by decide), if_neg hdigit,
    if_neg hand]
  exact congrArg _ (scan_space cs)

@[simp] theorem scan_and (cs : List Char) :
    scan reserved ('&' :: '&' :: cs) = .symbol .and :: scan reserved cs := by
  rw [scan]
  simp [isBlank, startsWord]

/-! ## Words -/

theorem scan_word {c : Char} {cs : List Char} (hc : startsWord c = true)
    (hcs : ∀ d ∈ cs, inWord d = true) (h : Ends inWord rest) :
    scan reserved (c :: cs ++ rest) =
      ofWord reserved (String.ofList (c :: cs)) :: scan reserved rest := by
  have hb : isBlank c = false := isBlank_of_inWord (inWord_of_startsWord hc)
  rw [List.cons_append, scan, hb, if_neg Bool.false_ne_true, if_pos hc, takeWhile_append_of_ends h,
    dropWhile_append_of_ends h, takeWhile_of_all hcs, dropWhile_of_all hcs, List.nil_append]

theorem ofWord_of_isName {word : String} (h : isName reserved word = true) :
    ofWord reserved word = .name word := by
  have hnone : reserved.find? (·.text == word) = none := by
    refine List.find?_eq_none.mpr fun k hk => ?_
    unfold isName at h
    split at h
    · cases h
    · simp only [Bool.and_eq_true, List.all_eq_true] at h
      simpa using h.2 k hk
  rw [ofWord, hnone]

theorem scan_name {word : String} (h : isName reserved word = true) (hr : Ends inWord rest) :
    scan reserved (word.toList ++ rest) = .name word :: scan reserved rest := by
  have hword := ofWord_of_isName h
  unfold isName at h
  split at h
  · cases h
  case _ c cs hcs =>
    simp only [Bool.and_eq_true, List.all_eq_true] at h
    rw [hcs, scan_word h.1.1 h.1.2 hr, ← hcs, String.ofList_toList, hword]

theorem find?_text (k : Keyword) : Keyword.ofProgram.find? (·.text == k.text) = some k := by
  cases k <;> decide

theorem ofWord_text {k : Keyword} (h : k ∈ reserved) : ofWord reserved k.text = .keyword k := by
  cases hf : reserved.find? (·.text == k.text) with
  | none => exact absurd (List.find?_eq_none.mp hf k h) (by simp)
  | some k' =>
      have htext : k'.text = k.text := by simpa using List.find?_some hf
      have hk := find?_text k'
      rw [htext, find?_text k] at hk
      cases hk
      rw [ofWord, hf]

theorem scan_keyword (k : Keyword) (h : k ∈ reserved) (hr : Ends inWord rest) :
    scan reserved (k.text.toList ++ rest) = .keyword k :: scan reserved rest := by
  have hword := ofWord_text h
  have hk : ∃ c cs, k.text.toList = c :: cs ∧ startsWord c = true ∧ cs.all inWord = true := by
    cases k <;> exact ⟨_, _, rfl, by decide, by decide⟩
  obtain ⟨c, cs, hcs, hc, hall⟩ := hk
  rw [hcs, scan_word hc (List.all_eq_true.mp hall) hr, ← hcs, String.ofList_toList, hword]

/-! ## Numbers -/

theorem scan_digits (n : Nat) (h : Ends Char.isDigit rest) :
    scan reserved (Nat.toDigits 10 n ++ rest) = .int n :: scan reserved rest := by
  have hall : ∀ d ∈ Nat.toDigits 10 n, d.isDigit = true := fun d hd =>
    Nat.isDigit_of_mem_toDigits (by decide) (by decide) hd
  obtain ⟨c, cs, hcs⟩ := List.exists_cons_of_ne_nil (Nat.toDigits_ne_nil (n := n) (b := 10))
  rw [hcs, List.forall_mem_cons] at hall
  have hb : isBlank c = false := isBlank_of_inWord (inWord_of_isDigit hall.1)
  have hw : startsWord c = false := startsWord_of_isDigit hall.1
  rw [hcs, List.cons_append, scan, hb, if_neg Bool.false_ne_true, hw, if_neg Bool.false_ne_true,
    if_pos hall.1, takeWhile_append_of_ends h, dropWhile_append_of_ends h,
    takeWhile_of_all hall.2, dropWhile_of_all hall.2, List.nil_append, number, ← hcs,
    Nat.ofDigitChars_ten_toDigits]

/-- A number is read back, whatever its sign. -/
theorem scan_int (n : Int) (h : Ends Char.isDigit rest) :
    scan reserved ((toString n).toList ++ rest) = .int n :: scan reserved rest := by
  cases n with
  | ofNat n =>
      have htext : (toString (Int.ofNat n)).toList = Nat.toDigits 10 n := Nat.toList_repr
      rw [htext]
      exact scan_digits n h
  | negSucc n =>
      have htext : (toString (Int.negSucc n)).toList = '-' :: Nat.toDigits 10 (n + 1) := by
        show ("-" ++ (n + 1).repr).toList = _
        rw [String.toList_append, Nat.toList_repr]
        rfl
      have hall : ∀ d ∈ Nat.toDigits 10 (n + 1), d.isDigit = true := fun d hd =>
        Nat.isDigit_of_mem_toDigits (by decide) (by decide) hd
      have hhead : (Nat.toDigits 10 (n + 1) ++ rest).head?.any Char.isDigit = true := by
        obtain ⟨c, cs, hcs⟩ :=
          List.exists_cons_of_ne_nil (Nat.toDigits_ne_nil (n := n + 1) (b := 10))
        rw [hcs] at hall ⊢
        exact hall c List.mem_cons_self
      rw [htext, List.cons_append, scan, if_neg (by decide), if_neg (by decide),
        if_neg (by decide), if_pos ⟨rfl, hhead⟩, takeWhile_append_of_ends h,
        dropWhile_append_of_ends h, takeWhile_of_all hall, dropWhile_of_all hall, List.nil_append,
        number, Nat.ofDigitChars_ten_toDigits]
      rfl

/-! ## Splitting at a blank -/

theorem head?_eq_and_iff {cs : List Char} :
    cs.head? = some '&' ↔ cs.head?.any (· == '&') = true := by
  cases cs <;> simp

/-- A blank ends whatever stands before it, so what follows is scanned by itself. -/
theorem scan_append_blank {c : Char} (h : isBlank c = true) (ds cs : List Char) :
    scan reserved (ds ++ c :: cs) = scan reserved ds ++ scan reserved cs := by
  -- None of the tokens that take in several characters goes on with a blank.
  have hw : Ends inWord (c :: cs) := ends_cons.mpr (inWord_of_isBlank h)
  have hd : Ends Char.isDigit (c :: cs) := hw.isDigit
  have hand : Ends (· == '&') (c :: cs) := by
    rw [ends_cons, beq_eq_false_iff_ne]
    rintro rfl
    cases h
  fun_induction scan reserved ds with
  | case1 => rw [List.nil_append, List.nil_append, scan_blank h]
  | case2 d ds hb ih => rw [List.cons_append, scan_blank hb, ih]
  | case3 d ds hb hs ih =>
      rw [List.cons_append, scan, if_neg hb, if_pos hs, takeWhile_append_of_ends hw,
        dropWhile_append_of_ends hw, ih, List.cons_append]
  | case4 d ds hb hs hd' ih =>
      rw [List.cons_append, scan, if_neg hb, if_neg hs, if_pos hd', takeWhile_append_of_ends hd,
        dropWhile_append_of_ends hd, ih, List.cons_append]
  | case5 d ds hb hs hd' hm ih =>
      have hm' := hm
      rw [← any_head?_append_of_ends hd] at hm'
      rw [List.cons_append, scan, if_neg hb, if_neg hs, if_neg hd', if_pos hm',
        takeWhile_append_of_ends hd, dropWhile_append_of_ends hd, ih, List.cons_append]
  | case6 d ds hb hs hd' hm ha ih =>
      obtain ⟨rfl, ha⟩ := ha
      obtain ⟨ds, rfl⟩ := List.head?_eq_some_iff.mp ha
      simp only [List.cons_append, scan_and, List.tail_cons] at ih ⊢
      rw [ih]
  | case7 d ds hb hs hd' hm ha s hsym ih =>
      rw [← any_head?_append_of_ends hd] at hm
      rw [head?_eq_and_iff, ← any_head?_append_of_ends hand, ← head?_eq_and_iff] at ha
      rw [List.cons_append, scan, if_neg hb, if_neg hs, if_neg hd', if_neg hm, if_neg ha, hsym, ih]
      rfl
  | case8 d ds hb hs hd' hm ha hsym ih =>
      rw [← any_head?_append_of_ends hd] at hm
      rw [head?_eq_and_iff, ← any_head?_append_of_ends hand, ← head?_eq_and_iff] at ha
      rw [List.cons_append, scan, if_neg hb, if_neg hs, if_neg hd', if_neg hm, if_neg ha, hsym, ih]
      rfl

end Token

end MiniJava
