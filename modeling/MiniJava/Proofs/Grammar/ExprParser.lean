import MiniJava.Proofs.Grammar.Expr
import MiniJava.Word

/-!
A parser for expressions, by descent through the levels of the grammar. What is parsed has no spans.
-/
namespace MiniJava

namespace Parse

variable {α β : Type}

/-- Go on after what was read, if reading it has made the text shorter. -/
def andThen (ts : List Token) (read : Option (α × List Token))
    (next : α → (rest : List Token) → rest.length < ts.length → Option β) : Option β :=
  match read with
  | some (a, rest) => if h : rest.length < ts.length then next a rest h else none
  | none => none

/-- What was read, if the token comes next. -/
def closedBy (t : Token) : Option (α × List Token) → Option (α × List Token)
  | some (a, t' :: rest) => if t' = t then some (a, rest) else none
  | _ => none

def operator? (n : Nat) (t : Token) : Option BinaryOp :=
  (BinaryOp.ofToken? t).filter (·.level = n)

mutual

/-- An expression, in a place that demands the level. -/
def expr (n : Nat) (ts : List Token) : Option (Expr × List Token) :=
  if n < 5 then andThen ts (expr (n + 1) ts) fun e rest _ => operators n e rest
  else if n = 5 then unary ts
  else if n = 6 then andThen ts (atom ts) fun e rest _ => suffixes e rest
  else atom ts
termination_by (ts.length, 2 * (8 - n) + 1)

/-- The operators of the level that follow the expression, each with its right operand. -/
def operators (n : Nat) (left : Expr) : List Token → Option (Expr × List Token)
  | [] => some (left, [])
  | t :: ts =>
    match operator? n t with
    | some op =>
      andThen ts (expr (n + 1) ts) fun right rest _ =>
        operators n (.binary op (.nowhere left) (.nowhere right)) rest
    | none => some (left, t :: ts)
termination_by ts => (ts.length, 0)

def unary (ts : List Token) : Option (Expr × List Token) :=
  match ts with
  | .symbol .not :: ts => (expr 5 ts).map fun (e, rest) => (.not (.nowhere e), rest)
  | .keyword .new :: .keyword .int :: .symbol .leftBracket :: ts =>
    (closedBy (.symbol .rightBracket) (expr 1 ts)).map fun (e, rest) =>
      (.newArray (.nowhere e), rest)
  | ts => expr 6 ts
termination_by (ts.length, 6)

/-- What is put after the expression. -/
def suffixes (e : Expr) : List Token → Option (Expr × List Token)
  | .symbol .leftBracket :: ts =>
    andThen ts (closedBy (.symbol .rightBracket) (expr 1 ts)) fun index rest _ =>
      suffixes (.lookup (.nowhere e) (.nowhere index)) rest
  | .symbol .dot :: .keyword .length :: ts => suffixes (.length (.nowhere e)) ts
  | .symbol .dot :: .name method :: .symbol .leftParen :: ts =>
    andThen ts (closedBy (.symbol .rightParen) (arguments ts)) fun args rest _ =>
      suffixes (.call (.nowhere e) (.nowhere method) args) rest
  | ts => some (e, ts)
termination_by ts => (ts.length, 0)

def arguments (ts : List Token) : Option (List (Located Expr) × List Token) :=
  match ts with
  | .symbol .rightParen :: ts => some ([], .symbol .rightParen :: ts)
  | ts => andThen ts (expr 1 ts) fun e rest _ =>
      (moreArguments rest).map fun (es, rest) => (.nowhere e :: es, rest)
termination_by (ts.length, 16)

def moreArguments : List Token → Option (List (Located Expr) × List Token)
  | .symbol .comma :: ts =>
    andThen ts (expr 1 ts) fun e rest _ =>
      (moreArguments rest).map fun (es, rest) => (.nowhere e :: es, rest)
  | ts => some ([], ts)
termination_by ts => (ts.length, 0)

def atom : List Token → Option (Expr × List Token)
  | .int value :: ts => (Word.signed? value).map fun value => (.int value, ts)
  | .keyword .trueLiteral :: ts => some (.bool true, ts)
  | .keyword .falseLiteral :: ts => some (.bool false, ts)
  | .keyword .self :: ts => some (.this, ts)
  | .name name :: ts => some (.var name, ts)
  | .keyword .new :: .name className :: .symbol .leftParen :: .symbol .rightParen :: ts =>
    some (.newObject (.nowhere className), ts)
  | .symbol .leftParen :: ts => closedBy (.symbol .rightParen) (expr 1 ts)
  | _ => none
termination_by ts => (ts.length, 0)

end

/-- What was read, if nothing is left over. -/
def whole : Option (α × List Token) → Option α
  | some (a, []) => some a
  | _ => none

def expression (ts : List Token) : Option Expr := whole (expr 1 ts)

/-! ## Reading what the grammar allows -/

theorem andThen_some {ts rest : List Token} {read : Option (α × List Token)} {a : α}
    {next : α → (rest : List Token) → rest.length < ts.length → Option β}
    (h : read = some (a, rest)) (hlt : rest.length < ts.length) :
    andThen ts read next = next a rest hlt := by
  subst h
  exact dif_pos hlt

theorem closedBy_some {t : Token} {read : Option (α × List Token)} {a : α} {rest : List Token}
    (h : read = some (a, t :: rest)) : closedBy t read = some (a, rest) := by
  subst h
  exact if_pos rfl

/-- What comes next takes an expression before it as its operand, in a place that demands no more
than the level. -/
def binding : List Token → Nat
  | [] => 0
  | .symbol .leftBracket :: _ | .symbol .dot :: _ => 6
  | t :: _ => ((BinaryOp.ofToken? t).map BinaryOp.level).getD 0

@[simp] theorem binding_sign (op : BinaryOp) (ts : List Token) :
    binding (.symbol op.sign :: ts) = op.level := by
  cases op <;> rfl

theorem operator?_sign (op : BinaryOp) : operator? op.level (.symbol op.sign) = some op := by
  simp [operator?]

/-- How the parser goes on at the level once it has read an expression of it. -/
def resume (n : Nat) (e : Expr) (rest : List Token) : Option (Expr × List Token) :=
  if n < 5 then operators n e rest
  else if n = 6 then suffixes e rest
  else some (e, rest)

variable {n : Nat} {e : Expr} {ts rest : List Token}

theorem operators_of_binding (h : binding rest ≠ n) : operators n e rest = some (e, rest) := by
  cases rest with
  | nil => rw [operators]
  | cons t rest =>
      have hnone : operator? n t = none := by
        refine Option.filter_eq_none_iff.mpr fun op hop => ?_
        rw [BinaryOp.eq_of_ofToken? hop, binding_sign] at h
        simpa using h
      rw [operators, hnone]

theorem suffixes_of_binding (h : binding rest < 6) : suffixes e rest = some (e, rest) := by
  rw [suffixes]
  all_goals
    intros
    subst rest
    exact absurd h (Nat.lt_irrefl 6)

theorem resume_of_binding (h : binding rest < n) : resume n e rest = some (e, rest) := by
  unfold resume
  split
  · exact operators_of_binding (Nat.ne_of_lt h)
  · split
    case _ h6 => exact suffixes_of_binding (h6 ▸ h)
    · rfl

@[simp] theorem resume_five : resume 5 e rest = some (e, rest) := rfl

@[simp] theorem resume_six : resume 6 e rest = suffixes e rest := rfl

@[simp] theorem resume_seven : resume 7 e rest = some (e, rest) := rfl

@[simp] theorem expr_five : expr 5 ts = unary ts := by
  rw [expr]
  rfl

@[simp] theorem expr_seven : expr 7 ts = atom ts := by
  rw [expr]
  rfl

theorem unary_of_opens (h : Expr.opens 6 ts = true) : unary ts = expr 6 ts := by
  rw [unary]
  all_goals
    intros
    subst ts
    cases h

/-- An expression that is tighter than demanded. -/
theorem expr_of_succ (hn : n < 7) (hopens : Expr.opens (n + 1) ts = true)
    (hread : expr (n + 1) ts = some (e, rest)) (hlt : rest.length < ts.length) :
    expr n ts = resume n e rest := by
  by_cases h5 : n < 5
  · rw [expr, if_pos h5, andThen_some hread hlt, resume, if_pos h5]
  · rcases (by omega : n = 5 ∨ n = 6) with rfl | rfl
    · rw [expr_five, unary_of_opens hopens, hread, resume_five]
    · rw [expr_seven] at hread
      rw [expr, if_neg h5, if_neg (by decide), if_pos rfl, andThen_some hread hlt, resume_six]

theorem operators_sign (op : BinaryOp) {us : List Token} {r : Expr}
    (hread : expr (op.level + 1) us = some (r, rest)) (hlt : rest.length < us.length) :
    operators op.level e (.symbol op.sign :: us) =
      operators op.level (.binary op (.nowhere e) (.nowhere r)) rest := by
  rw [operators, operator?_sign]
  exact andThen_some hread hlt

theorem resume_level (op : BinaryOp) : resume op.level e rest = operators op.level e rest :=
  if_pos (Nat.lt_succ_of_le op.level_le)

theorem length_lt_append (h : ts ≠ []) : rest.length < (ts ++ rest).length := by
  rw [List.length_append]
  exact Nat.lt_add_of_pos_left (List.length_pos_iff.mpr h)

theorem length_lt_append_cons (t : Token) : rest.length < (ts ++ t :: rest).length := by
  simp only [List.length_append, List.length_cons]
  omega

theorem arguments_of_opens (h : Expr.opens 1 ts = true) :
    arguments ts = andThen ts (expr 1 ts) fun e rest _ =>
      (moreArguments rest).map fun (es, rest) => (.nowhere e :: es, rest) := by
  rw [arguments]
  intros
  subst ts
  cases h

theorem moreArguments_comma (h : Expr.opens 1 ts = true) :
    moreArguments (.symbol .comma :: ts) = arguments ts := by
  rw [moreArguments, arguments_of_opens h]

theorem moreArguments_rightParen :
    moreArguments (.symbol .rightParen :: rest) = some ([], .symbol .rightParen :: rest) := by
  rw [moreArguments]
  intro ts h
  cases h

theorem binding_leftBracket : binding (.symbol .leftBracket :: ts) ≤ 6 := Nat.le_refl 6

theorem binding_dot : binding (.symbol .dot :: ts) ≤ 6 := Nat.le_refl 6

mutual

/-- The parser reads what the grammar derives, and goes on with what comes next. -/
theorem expr_append {n : Nat} {ts : List Token} {e : Expr} :
    e.Derives n ts → ∀ rest, binding rest ≤ n → expr n (ts ++ rest) = resume n e.erase rest
  | .binary op hl hr, rest, h => by
      -- The right operand is of a tighter level, so it leaves an operator of this level unread; the
      -- left one is of this level, so the parser goes on with the operator after it.
      have hright := expr_append hr rest (Nat.le_succ_of_le h)
      rw [resume_of_binding (Nat.lt_succ_of_le h)] at hright
      rw [List.append_assoc, List.cons_append, expr_append hl _ (Nat.le_of_eq (binding_sign _ _)),
        resume_level, operators_sign op hright (length_lt_append hr.ne_nil), resume_level]
      rfl
  | .not he, rest, h => by
      have hread := expr_append he rest h
      rw [resume_five] at hread
      rw [List.cons_append, expr_five, unary, hread]
      rfl
  | .newArray he, rest, _ => by
      have hread := expr_append he (.symbol .rightBracket :: rest) (Nat.zero_le _)
      rw [resume_of_binding Nat.zero_lt_one] at hread
      simp only [List.cons_append, List.append_assoc, List.nil_append]
      rw [expr_five, unary, closedBy_some hread]
      rfl
  | .lookup ha hi, rest, _ => by
      have hread := expr_append hi (.symbol .rightBracket :: rest) (Nat.zero_le _)
      rw [resume_of_binding Nat.zero_lt_one] at hread
      simp only [List.cons_append, List.append_assoc, List.nil_append]
      rw [expr_append ha _ binding_leftBracket, resume_six, suffixes,
        andThen_some (closedBy_some hread) (length_lt_append_cons _)]
      rfl
  | .length ha, rest, _ => by
      simp only [List.cons_append, List.append_assoc, List.nil_append]
      rw [expr_append ha _ binding_dot, resume_six, suffixes]
      rfl
  | .call method hr hargs, rest, _ => by
      have hread := arguments_append hargs rest
      simp only [List.cons_append, List.append_assoc, List.nil_append]
      rw [expr_append hr _ binding_dot, resume_six, suffixes,
        andThen_some (closedBy_some hread) (length_lt_append_cons _)]
      rfl
  | .int value, rest, _ => by
      rw [List.cons_append, expr_seven, atom, Word.signed?_toInt]
      rfl
  | .bool true, rest, _ | .bool false, rest, _ | .this, rest, _ | .var _, rest, _
  | .newObject _, rest, _ => by
      simp only [List.cons_append, List.nil_append, Keyword.ofBool]
      rw [expr_seven, atom]
      rfl
  | .parens he, rest, _ => by
      have hread := expr_append he (.symbol .rightParen :: rest) (Nat.zero_le _)
      rw [resume_of_binding Nat.zero_lt_one] at hread
      simp only [List.cons_append, List.append_assoc, List.nil_append]
      rw [expr_seven, atom, closedBy_some hread, resume_seven]
  | .tighter hn he, rest, h => by
      -- What comes next binds too loosely for the tighter level to go on with it.
      have hread := expr_append he rest (Nat.le_succ_of_le h)
      rw [resume_of_binding (Nat.lt_succ_of_le h)] at hread
      exact expr_of_succ hn (he.opens rest) hread (length_lt_append he.ne_nil)

theorem arguments_append {ts : List Token} {args : List (Located Expr)} :
    Expr.DerivesArgs ts args → ∀ rest, arguments (ts ++ .symbol .rightParen :: rest) =
      some (Expr.mapSpansList (fun _ => .nowhere) args, .symbol .rightParen :: rest)
  | .nil, rest => by
      rw [List.nil_append, arguments]
      rfl
  | .single he, rest => by
      have hread := expr_append he (.symbol .rightParen :: rest) (Nat.zero_le _)
      rw [resume_of_binding Nat.zero_lt_one] at hread
      rw [arguments_of_opens (he.opens _), andThen_some hread (length_lt_append he.ne_nil),
        moreArguments_rightParen]
      rfl
  | .cons he hargs, rest => by
      have hread us := (expr_append he (.symbol .comma :: us) (Nat.zero_le _)).trans
        (resume_of_binding Nat.zero_lt_one)
      rw [List.append_assoc, List.cons_append, arguments_of_opens (he.opens _),
        andThen_some (hread _) (length_lt_append he.ne_nil),
        moreArguments_comma (hargs.opens _), arguments_append hargs rest]
      rfl

end

/-- An expression before a token that no expression goes on with. -/
theorem expr_before (h : e.Derives 1 ts) (t : Token) (rest : List Token)
    (ht : binding (t :: rest) = 0) :
    expr 1 (ts ++ t :: rest) = some (e.erase, t :: rest) := by
  have hread := expr_append h (t :: rest) (by omega)
  rwa [resume_of_binding (by omega)] at hread

theorem closedBy_expr (h : e.Derives 1 ts) {t : Token} (ht : binding (t :: rest) = 0) :
    closedBy t (expr 1 (ts ++ t :: rest)) = some (e.erase, rest) :=
  closedBy_some (expr_before h t rest ht)

theorem expression_eq (h : e.Derives 1 ts) : expression ts = some e.erase := by
  have hread := expr_append h [] (Nat.zero_le 1)
  rw [List.append_nil, resume_of_binding Nat.zero_lt_one] at hread
  rw [expression, hread]
  rfl

end Parse

end MiniJava
