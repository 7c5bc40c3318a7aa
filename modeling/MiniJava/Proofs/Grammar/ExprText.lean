import MiniJava.Layout.Printer
import MiniJava.Proofs.Grammar.ExprParser
import MiniJava.Proofs.Grammar.Writes
import MiniJava.Proofs.Syntax.Names

/-!
A printed expression is parsed back: its text stands for tokens that derive it, and the parser reads
them as the expression and as nothing else.
-/
namespace MiniJava

open Token

namespace BinaryOp

/-- The printer's binding strengths are the levels of the grammar. -/
theorem precedence_eq_level (op : BinaryOp) : op.precedence = op.level := by cases op <;> rfl

end BinaryOp

namespace Expr

mutual

/-- The tokens that the expression is printed as. -/
def tokens : Expr → List Token
  | .binary op ⟨l, _⟩ ⟨r, _⟩ =>
    enclose op.precedence l.precedence (tokens l) ++ .symbol op.sign ::
      enclose (op.precedence + 1) r.precedence (tokens r)
  | .lookup ⟨a, _⟩ ⟨i, _⟩ =>
    enclose postfixPrecedence a.precedence (tokens a) ++ .symbol .leftBracket ::
      (tokens i ++ [.symbol .rightBracket])
  | .length ⟨a, _⟩ =>
    enclose postfixPrecedence a.precedence (tokens a) ++ [.symbol .dot, .keyword .length]
  | .call ⟨r, _⟩ method args =>
    enclose postfixPrecedence r.precedence (tokens r) ++ .symbol .dot :: .name method.node ::
      .symbol .leftParen :: (commas (tokensList args) ++ [.symbol .rightParen])
  | .int value => [.int value.toInt]
  | .bool value => [.keyword (.ofBool value)]
  | .var x => [.name x]
  | .this => [.keyword .self]
  | .newArray ⟨n, _⟩ =>
    .keyword .new :: .keyword .int :: .symbol .leftBracket :: (tokens n ++ [.symbol .rightBracket])
  | .newObject className =>
    [.keyword .new, .name className.node, .symbol .leftParen, .symbol .rightParen]
  | .not ⟨e, _⟩ => .symbol .not :: enclose unaryPrecedence e.precedence (tokens e)

def tokensList : List (Located Expr) → List (List Token)
  | [] => []
  | ⟨e, _⟩ :: es => tokens e :: tokensList es

end

/-! ## The text stands for the tokens -/

theorem texts_eq_map : (es : List (Located Expr)) → texts es = es.map (·.node.text)
  | [] => rfl
  | _ :: es => congrArg _ (texts_eq_map es)

theorem tokensList_eq_map : (es : List (Located Expr)) → tokensList es = es.map (·.node.tokens)
  | [] => rfl
  | _ :: es => congrArg _ (tokensList_eq_map es)

variable {reserved : List Keyword}

theorem scan_operator (op : BinaryOp) (rest : List Char) :
    scan reserved (' ' :: (op.symbol.toList ++ ' ' :: rest)) =
      .symbol op.sign :: scan reserved rest := by
  rw [scan_space]
  cases op with
  | and =>
      show scan reserved ('&' :: '&' :: ' ' :: rest) = _
      rw [scan_and, scan_space]
      rfl
  | lessThan => exact (scan_symbol '<' rfl _).trans (congrArg _ (scan_space rest))
  | plus => exact (scan_symbol '+' rfl _).trans (congrArg _ (scan_space rest))
  | minus => exact scan_minus rest
  | times => exact (scan_symbol '*' rfl _).trans (congrArg _ (scan_space rest))

mutual

theorem text_writes (hk : Keyword.ofExpr ⊆ reserved) :
    (e : Expr) → e.AllNames (isName reserved · = true) → Writes reserved e.text e.tokens
  | .binary op ⟨l, _⟩ ⟨r, _⟩, h => by
      have hl := (text_writes hk l h.1).parenthesize op.precedence l.precedence
      have hr := (text_writes hk r h.2).parenthesize (op.precedence + 1) r.precedence
      intro rest hrest
      simp only [text, tokens, String.toList_append, String.reduceToList, List.append_assoc,
        List.cons_append, List.nil_append]
      rw [hl _ (ends_cons.mpr rfl), scan_operator, hr rest hrest]
  | .lookup ⟨a, _⟩ ⟨i, _⟩, h => by
      have ha := (text_writes hk a h.1).parenthesize postfixPrecedence a.precedence
      have hi := text_writes hk i h.2
      intro rest _
      simp only [text, tokens, String.toList_append, String.reduceToList, List.append_assoc,
        List.cons_append, List.nil_append]
      rw [ha.before '[' rfl, hi.before ']' rfl]
  | .length ⟨a, _⟩, h => by
      have ha := (text_writes hk a h).parenthesize postfixPrecedence a.precedence
      intro rest hrest
      simp only [text, tokens, String.toList_append, String.reduceToList, List.append_assoc,
        List.cons_append, List.nil_append]
      rw [ha _ (ends_cons.mpr rfl), scan_lengthWord hk hrest]
  | .call ⟨r, _⟩ method args, h => by
      have hr := (text_writes hk r h.1).parenthesize postfixPrecedence r.precedence
      have hmethod := writes_name h.2.1
      have hargs := writes_commaSeparated _ _ args (texts_write hk args h.2.2)
      intro rest _
      simp only [text, tokens, texts_eq_map, tokensList_eq_map, String.toList_append,
        String.reduceToList, List.append_assoc, List.cons_append, List.nil_append]
      rw [hr.before '.' rfl, hmethod.before '(' rfl, List.singleton_append,
        hargs.before ')' rfl]
  | .int value, _ => writes_int value.toInt
  | .bool true, _ => writes_keyword .trueLiteral (hk (by decide))
  | .bool false, _ => writes_keyword .falseLiteral (hk (by decide))
  | .var _, h => writes_name h
  | .this, _ => writes_keyword .self (hk (by decide))
  | .newArray ⟨n, _⟩, h => by
      have hn := text_writes hk n h
      intro rest _
      simp only [text, tokens, String.toList_append, String.reduceToList, List.append_assoc,
        List.cons_append, List.nil_append]
      rw [scan_newWord hk, scan_intWord hk, hn.before ']' rfl]
  | .newObject className, h => by
      have hname := writes_name h
      intro rest _
      simp only [text, tokens, String.toList_append, String.reduceToList, List.append_assoc,
        List.cons_append, List.nil_append]
      rw [scan_newWord hk, hname.before '(' rfl, List.singleton_append, scan_symbol ')' rfl]
  | .not ⟨e, _⟩, h => by
      have he := (text_writes hk e h).parenthesize unaryPrecedence e.precedence
      intro rest hrest
      simp only [text, tokens, String.toList_append, String.reduceToList, List.cons_append,
        List.nil_append]
      rw [scan_symbol '!' rfl, he rest hrest]

theorem texts_write (hk : Keyword.ofExpr ⊆ reserved) :
    (es : List (Located Expr)) → AllNamesList (isName reserved · = true) es →
      ∀ e ∈ es, Writes reserved e.node.text e.node.tokens
  | [], _, _, he => by cases he
  | ⟨e, _⟩ :: es, h, e', he => by
      rcases List.mem_cons.mp he with heq | he
      · rw [heq]
        exact text_writes hk e h.1
      · exact texts_write hk es h.2 e' he

end

/-! ## The tokens derive the expression -/

theorem precedence_bounds (e : Expr) : 1 ≤ e.precedence ∧ e.precedence ≤ 7 := by
  cases e with
  | binary op =>
      have hle := op.level_le
      rw [precedence, op.precedence_eq_level]
      exact ⟨op.level_pos, by omega⟩
  | _ => simp [precedence, unaryPrecedence, postfixPrecedence, atomPrecedence]

variable {ts : List Token} {e : Expr}

/-- An expression may stand by itself, however loose it is. -/
theorem Derives.loosest (h : Derives e.precedence ts e) : Derives 1 ts e :=
  h.mono e.precedence_bounds.2 e.precedence_bounds.1

/-- In parentheses where it could not stand without them, an expression may stand anywhere. -/
theorem Derives.enclose (h : Derives e.precedence ts e) (demanded : Nat) (hd : demanded ≤ 7) :
    Derives demanded (enclose demanded e.precedence ts) e := by
  unfold Token.enclose
  split
  · exact (Derives.parens h.loosest).mono (Nat.le_refl 7) hd
  · exact h.mono e.precedence_bounds.2 (by omega)

mutual

theorem tokens_derive : (e : Expr) → Derives e.precedence e.tokens e
  | .binary op ⟨l, _⟩ ⟨r, _⟩ => by
      have hop := op.level_le
      have hl := (tokens_derive l).enclose op.level (by omega)
      have hr := (tokens_derive r).enclose (op.level + 1) (by omega)
      rw [precedence, tokens, op.precedence_eq_level]
      exact .binary op hl hr
  | .lookup ⟨a, _⟩ ⟨i, _⟩ =>
      .lookup ((tokens_derive a).enclose 6 (by decide)) (tokens_derive i).loosest
  | .length ⟨a, _⟩ => .length ((tokens_derive a).enclose 6 (by decide))
  | .call ⟨r, _⟩ method args =>
      .call method ((tokens_derive r).enclose 6 (by decide)) (tokensList_derive args)
  | .int value => .int value
  | .bool value => .bool value
  | .var x => .var x
  | .this => .this
  | .newArray ⟨n, _⟩ => .newArray (tokens_derive n).loosest
  | .newObject className => .newObject className
  | .not ⟨e, _⟩ => .not ((tokens_derive e).enclose 5 (by decide))

theorem tokensList_derive : (es : List (Located Expr)) → DerivesArgs (commas (tokensList es)) es
  | [] => .nil
  | [⟨e, _⟩] => .single (tokens_derive e).loosest
  | ⟨e, _⟩ :: e' :: es => .cons (tokens_derive e).loosest (tokensList_derive (e' :: es))

end

/-! ## Parsing back -/

/-- A printed expression is read as the expression, up to spans, and the grammar allows no other
reading of it. -/
theorem text_parses_back (e : Located Expr) (config : Config)
    (h : e.node.AllNames (isName Keyword.ofExpr · = true)) :
    let ts := scan Keyword.ofExpr ((Node.expr e).text config).toList
    Parse.expression ts = some e.node.erase ∧ Derives 1 ts e.node ∧
      ∀ e', Derives 1 ts e' → e'.erase = e.node.erase := by
  have htext : (Node.expr e).text config = e.node.text := String.empty_append
  have hscan := (text_writes (List.Subset.refl _) e.node h).scan_eq
  have hderives := (tokens_derive e.node).loosest
  rw [htext, hscan]
  refine ⟨Parse.expression_eq hderives, hderives, ?_⟩
  intro e' he'
  have hsame := (Parse.expression_eq he').symm.trans (Parse.expression_eq hderives)
  exact Option.some.inj hsame

/-- `a - ((new int[b]).length - -1)` -/
theorem text_parses_back_nested :
    let size : Expr := .length (.nowhere (.newArray (.nowhere (.var "b"))))
    let e : Expr := .binary .minus (.nowhere (.var "a"))
      (.nowhere (.binary .minus (.nowhere size) (.nowhere (.int (-1)))))
    e.AllNames (isName Keyword.ofExpr · = true) ∧
      Parse.expression (scan Keyword.ofExpr ((Node.expr (.nowhere e)).text {}).toList) =
        some e.erase := by
  intro size e
  have ha : isName Keyword.ofExpr "a" = true := by decide
  have hb : isName Keyword.ofExpr "b" = true := by decide
  have hnames : e.AllNames (isName Keyword.ofExpr · = true) := ⟨ha, hb, trivial⟩
  exact ⟨hnames, (text_parses_back (.nowhere e) {} hnames).1⟩

end Expr

end MiniJava
