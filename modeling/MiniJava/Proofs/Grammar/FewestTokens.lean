import MiniJava.Proofs.Grammar.ExprReading
import MiniJava.Proofs.Grammar.ExprText
import MiniJava.Proofs.Spans.Layout

/-!
The printer spends no parentheses it could save: wherever the grammar takes tokens for an expression,
they are at least as many as it takes to print the expression there.
-/
namespace MiniJava

open Token

namespace Token

variable {demanded demanded' actual : Nat} {ts : List Token}

theorem enclose_of_le (h : demanded ≤ actual) : enclose demanded actual ts = ts :=
  if_neg (Nat.not_lt.mpr h)

theorem length_enclose_le_of_le {n : Nat} (h : demanded ≤ actual) (hts : ts.length ≤ n) :
    (enclose demanded actual ts).length ≤ n := by
  rwa [enclose_of_le h]

theorem length_le_enclose : ts.length ≤ (enclose demanded actual ts).length := by
  unfold enclose
  split
  · simp only [List.length_cons, List.length_append]
    omega
  · exact Nat.le_refl _

theorem length_enclose_le : (enclose demanded actual ts).length ≤ ts.length + 2 := by
  unfold enclose
  split
  · simp
  · exact Nat.le_add_right ts.length 2

/-- A place that demands less needs no more tokens. -/
theorem length_enclose_mono (h : demanded ≤ demanded') :
    (enclose demanded actual ts).length ≤ (enclose demanded' actual ts).length := by
  by_cases hactual : actual < demanded
  · have hactual' : actual < demanded' := Nat.lt_of_lt_of_le hactual h
    have hsame : enclose demanded actual ts = enclose demanded' actual ts :=
      (if_pos hactual).trans (if_pos hactual').symm
    exact Nat.le_of_eq (congrArg List.length hsame)
  · rw [enclose_of_le (Nat.not_lt.mp hactual)]
    exact length_le_enclose

end Token

namespace Expr

/-! ## The tokens do not depend on spans -/

mutual

theorem tokens_mapSpans (g : Span → Span) : (e : Expr) → (e.mapSpans g).tokens = e.tokens
  | .binary _ ⟨l, _⟩ ⟨r, _⟩ => by
      simp only [mapSpans, tokens, precedence_mapSpans, tokens_mapSpans g l, tokens_mapSpans g r]
  | .lookup ⟨a, _⟩ ⟨i, _⟩ => by
      simp only [mapSpans, tokens, precedence_mapSpans, tokens_mapSpans g a, tokens_mapSpans g i]
  | .length ⟨a, _⟩ => by simp only [mapSpans, tokens, precedence_mapSpans, tokens_mapSpans g a]
  | .call ⟨r, _⟩ _ args => by
      simp only [mapSpans, tokens, precedence_mapSpans, tokens_mapSpans g r,
        tokensList_mapSpans g args, Located.respan]
  | .newArray ⟨n, _⟩ => by simp only [mapSpans, tokens, tokens_mapSpans g n]
  | .newObject _ => rfl
  | .not ⟨e, _⟩ => by simp only [mapSpans, tokens, precedence_mapSpans, tokens_mapSpans g e]
  | .int _ => rfl
  | .bool _ => rfl
  | .var _ => rfl
  | .this => rfl

theorem tokensList_mapSpans (g : Span → Span) :
    (es : List (Located Expr)) → tokensList (mapSpansList g es) = tokensList es
  | [] => rfl
  | ⟨e, _⟩ :: es => by
      rw [mapSpansList, tokensList, tokensList, tokens_mapSpans g e, tokensList_mapSpans g es]

end

theorem tokens_eq_of_erase {e e' : Expr} (h : e'.erase = e.erase) : e'.tokens = e.tokens :=
  calc e'.tokens = e'.erase.tokens := (tokens_mapSpans _ e').symm
    _ = e.erase.tokens := congrArg tokens h
    _ = e.tokens := tokens_mapSpans _ e

/-! ## Every derivation is as long -/

theorem enclose_one (e : Expr) : enclose 1 e.precedence e.tokens = e.tokens :=
  enclose_of_le e.precedence_bounds.1

mutual

/-- What the printer writes in a place of the level is no longer than any tokens derived there.
By induction on the derivation. An operand that is too loose for its place can only have come by
`parens`, which are the tokens that the printer spends on it. -/
theorem Derives.length_enclose_le {n : Nat} {ts : List Token} {e : Expr} :
    Derives n ts e → (enclose n e.precedence e.tokens).length ≤ ts.length
  | .binary op hl hr => by
      have hleft := hl.length_enclose_le
      have hright := hr.length_enclose_le
      refine length_enclose_le_of_le (Nat.le_of_eq op.precedence_eq_level.symm) ?_
      rw [tokens, op.precedence_eq_level]
      simp only [List.length_append, List.length_cons]
      omega
  | .not he => length_enclose_le_of_le (Nat.le_refl 5) (Nat.succ_le_succ he.length_enclose_le)
  | .newArray hn => by
      have hsize := hn.length_enclose_le
      rw [enclose_one] at hsize
      refine length_enclose_le_of_le (Nat.le_refl 5) ?_
      simp only [tokens, List.length_append, List.length_cons]
      omega
  | .lookup ha hi => by
      have harray := ha.length_enclose_le
      have hindex := hi.length_enclose_le
      rw [enclose_one] at hindex
      refine length_enclose_le_of_le (Nat.le_refl 6) ?_
      simp only [tokens, postfixPrecedence, List.length_append, List.length_cons]
      omega
  | .length ha => by
      have harray := ha.length_enclose_le
      refine length_enclose_le_of_le (Nat.le_refl 6) ?_
      simp only [tokens, postfixPrecedence, List.length_append]
      omega
  | .call method hr hargs => by
      have hreceiver := hr.length_enclose_le
      have harguments := hargs.length_commas_le
      refine length_enclose_le_of_le (Nat.le_refl 6) ?_
      simp only [tokens, postfixPrecedence, List.length_append, List.length_cons]
      omega
  | .int _ | .bool _ | .this | .var _ | .newObject _ => Nat.le_refl _
  | .parens he => by
      have hinside := he.length_enclose_le
      rw [enclose_one] at hinside
      refine Nat.le_trans Token.length_enclose_le ?_
      simp only [List.length_cons, List.length_append, List.length_nil]
      omega
  | .tighter _ he => Nat.le_trans (length_enclose_mono (Nat.le_succ _)) he.length_enclose_le

theorem DerivesArgs.length_commas_le {ts : List Token} {args : List (Located Expr)} :
    DerivesArgs ts args → (commas (tokensList args)).length ≤ ts.length
  | .nil => Nat.le_refl _
  | .single he => by
      have hargument := he.length_enclose_le
      rwa [enclose_one] at hargument
  | .cons he hargs => by
      have hargument := he.length_enclose_le
      have hrest := hargs.length_commas_le
      rw [enclose_one] at hargument
      simp only [tokensList_eq_map, List.map_cons] at hrest ⊢
      simp only [commas, List.length_append, List.length_cons]
      omega

end

theorem Derives.length_tokens_le {ts : List Token} {e : Expr} (h : Derives 1 ts e) :
    e.tokens.length ≤ ts.length := by
  have hlength := h.length_enclose_le
  rwa [enclose_one] at hlength

/-! ## Printing -/

variable {reserved : List Keyword}

/-- Among all the tokens that the grammar derives for the expression, or that are read as it, up to
spans, those of its printed text are the fewest. -/
theorem text_has_fewest_tokens (hk : Keyword.ofExpr ⊆ reserved) (e : Located Expr) (config : Config)
    (h : e.node.AllNames (isName reserved · = true)) :
    let printed := scan reserved ((Node.expr e).text config).toList
    Derives 1 printed e.node ∧
      (∀ ts e', Derives 1 ts e' → e'.erase = e.node.erase → printed.length ≤ ts.length) ∧
      ∀ ts, Parse.expression ts = some e.node.erase → printed.length ≤ ts.length := by
  have htext : (Node.expr e).text config = e.node.text := String.empty_append
  have hscan := (text_writes hk e.node h).scan_eq
  rw [htext, hscan]
  refine ⟨(tokens_derive e.node).loosest, ?_, ?_⟩
  · intro ts e' he' hsame
    rw [← tokens_eq_of_erase hsame]
    exact he'.length_tokens_le
  · intro ts hread
    rw [← tokens_mapSpans (fun _ => .nowhere) e.node]
    exact (Parse.derives_of_expression hread).length_tokens_le

/-- Nothing shorter than `(a - (b - c)).length` is read as it. -/
theorem text_has_fewest_tokens_nested :
    let difference : Expr := .binary .minus (.nowhere (.var "a"))
      (.nowhere (.binary .minus (.nowhere (.var "b")) (.nowhere (.var "c"))))
    let e : Expr := .length (.nowhere difference)
    e.AllNames (isName Keyword.ofExpr · = true) ∧
      ∀ ts, Parse.expression ts = some e.erase → 11 ≤ ts.length := by
  intro difference e
  have ha : isName Keyword.ofExpr "a" = true := by decide
  have hb : isName Keyword.ofExpr "b" = true := by decide
  have hc : isName Keyword.ofExpr "c" = true := by decide
  have hnames : e.AllNames (isName Keyword.ofExpr · = true) := ⟨ha, hb, hc⟩
  have hprinted : scan Keyword.ofExpr ((Node.expr (.nowhere e)).text {}).toList = e.tokens :=
    (text_writes (List.Subset.refl _) e hnames).scan_eq
  refine ⟨hnames, fun ts hread => ?_⟩
  have hfewest := (text_has_fewest_tokens (List.Subset.refl _) (.nowhere e) {} hnames).2.2 ts hread
  rwa [hprinted] at hfewest

end Expr

end MiniJava
