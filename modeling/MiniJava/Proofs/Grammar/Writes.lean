import MiniJava.Layout.Expr
import MiniJava.Proofs.Grammar.Scan

/-!
Which tokens a printed text stands for, piece by piece: names, numbers, lists with commas and text
in parentheses.
-/
namespace MiniJava

namespace Token

/-- Before anything that does not go on with a word, the text is scanned as the tokens. -/
def Writes (reserved : List Keyword) (text : String) (ts : List Token) : Prop :=
  ∀ rest, Ends inWord rest → scan reserved (text.toList ++ rest) = ts ++ scan reserved rest

/-- The tokens, in parentheses when the binding strength falls short of what its place demands. -/
def enclose (demanded actual : Nat) (ts : List Token) : List Token :=
  if actual < demanded then .symbol .leftParen :: (ts ++ [.symbol .rightParen]) else ts

variable {reserved : List Keyword} {text : String} {ts : List Token}

theorem Writes.scan_eq (h : Writes reserved text ts) : scan reserved text.toList = ts := by
  have hscan := h [] ends_nil
  rwa [List.append_nil, scan_nil, List.append_nil] at hscan

/-- A symbol ends the text before it. -/
theorem Writes.before (h : Writes reserved text ts) (c : Char) {s : Symbol}
    (hs : Symbol.ofChar? c = some s) (cs : List Char) (hc : c ≠ '-' := by decide) :
    scan reserved (text.toList ++ c :: cs) = ts ++ .symbol s :: scan reserved cs := by
  rw [h _ (ends_cons.mpr (inWord_of_ofChar? hs)), scan_symbol c hs cs hc]

theorem writes_name {name : String} (h : isName reserved name = true) :
    Writes reserved name [.name name] := fun _ => scan_name h

theorem writes_keyword (k : Keyword) (h : k ∈ reserved) : Writes reserved k.text [.keyword k] :=
  fun _ => scan_keyword k h

theorem writes_int (n : Int) : Writes reserved (toString n) [.int n] :=
  fun _ hr => scan_int n hr.isDigit

theorem writes_commaSeparated {α : Type} (f : α → String) (g : α → List Token) :
    (xs : List α) → (∀ x ∈ xs, Writes reserved (f x) (g x)) →
      Writes reserved (commaSeparated (xs.map f)) (commas (xs.map g))
  | [], _ => by
      intro rest _
      rfl
  | [x], h => by
      rw [List.map_singleton, commaSeparated, String.intercalate_singleton]
      exact h x List.mem_cons_self
  | x :: y :: xs, h => by
      intro rest hr
      have htail := writes_commaSeparated f g (y :: xs) fun z hz =>
        h z (List.mem_cons_of_mem x hz)
      have hcomma : (commaSeparated ((x :: y :: xs).map f)).toList ++ rest =
          (f x).toList ++ ',' :: ' ' :: ((commaSeparated ((y :: xs).map f)).toList ++ rest) := by
        simp [commaSeparated]
      rw [hcomma, (h x List.mem_cons_self).before ',' rfl, scan_space,
        htail rest hr]
      simp [commas]

theorem Writes.parenthesize (h : Writes reserved text ts) (demanded actual : Nat) :
    Writes reserved (parenthesize demanded actual text) (enclose demanded actual ts) := by
  unfold MiniJava.parenthesize enclose
  split
  · intro rest _
    simp only [String.toList_append, String.reduceToList, List.cons_append, List.nil_append,
      List.append_assoc]
    rw [scan_symbol '(' rfl, h.before ')' rfl]
  · exact h

/-! ## Words of expressions -/

theorem scan_newWord (hk : Keyword.ofExpr ⊆ reserved) (rest : List Char) :
    scan reserved ('n' :: 'e' :: 'w' :: ' ' :: rest) = .keyword .new :: scan reserved rest :=
  (scan_keyword .new (hk (by decide)) (ends_cons.mpr rfl)).trans (congrArg _ (scan_space rest))

theorem scan_intWord (hk : Keyword.ofExpr ⊆ reserved) (rest : List Char) :
    scan reserved ('i' :: 'n' :: 't' :: '[' :: rest) =
      .keyword .int :: .symbol .leftBracket :: scan reserved rest :=
  (scan_keyword .int (hk (by decide)) (ends_cons.mpr rfl)).trans
    (congrArg _ (scan_symbol '[' rfl rest))

theorem scan_lengthWord (hk : Keyword.ofExpr ⊆ reserved) {rest : List Char}
    (hrest : Ends inWord rest) :
    scan reserved ('.' :: 'l' :: 'e' :: 'n' :: 'g' :: 't' :: 'h' :: rest) =
      .symbol .dot :: .keyword .length :: scan reserved rest :=
  (scan_symbol '.' rfl _).trans (congrArg _ (scan_keyword .length (hk (by decide)) hrest))

end Token

end MiniJava
