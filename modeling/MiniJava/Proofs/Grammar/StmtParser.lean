import MiniJava.Proofs.Grammar.ExprParser
import MiniJava.Proofs.Grammar.Stmt

/-!
A parser for types, variable declarations and statements. An `else` is taken by the first `if` that
can have it.
-/
namespace MiniJava

namespace Parse

variable {α : Type}

def ty : List Token → Option (Ty × List Token)
  | .keyword .int :: .symbol .leftBracket :: .symbol .rightBracket :: ts => some (.intArray, ts)
  | .keyword .int :: ts => some (.integer, ts)
  | .keyword .boolean :: ts => some (.boolean, ts)
  | .name name :: ts => some (.named name, ts)
  | _ => none

def name : List Token → Option (String × List Token)
  | .name name :: ts => some (name, ts)
  | _ => none

/-- At least one piece, with commas between. -/
def separated (read : List Token → Option (α × List Token)) (ts : List Token) :
    Option (List (Located α) × List Token) :=
  andThen ts (read ts) fun a rest h =>
    match rest, h with
    | .symbol .comma :: rest, _ =>
      (separated read rest).map fun (as, rest) => (.nowhere a :: as, rest)
    | rest, _ => some ([.nowhere a], rest)
termination_by ts.length
decreasing_by
  simp only [List.length_cons] at *
  omega

def varDecl (ts : List Token) : Option (VarDecl × List Token) :=
  (ty ts).bind fun (t, ts) => closedBy (.symbol .semicolon) <|
    (separated name ts).bind fun (ids, rest) => (VarDecl.ofList? (.nowhere t) ids).map (·, rest)

mutual

def stmt : List Token → Option (Stmt × List Token)
  | .symbol .leftBrace :: ts =>
    (closedBy (.symbol .rightBrace) (statements ts)).map fun (body, rest) => (.block body, rest)
  | .keyword .if :: .symbol .leftParen :: ts =>
    andThen ts (closedBy (.symbol .rightParen) (expr 1 ts)) fun c rest _ =>
      andThen rest (stmt rest) fun t rest ht =>
        match rest, ht with
        | .keyword .else :: rest, _ =>
          (stmt rest).map fun (e, rest) =>
            (.ifElse (.nowhere c) (.nowhere t) (.nowhere e), rest)
        | rest, _ => some (.ifThen (.nowhere c) (.nowhere t), rest)
  | .keyword .while :: .symbol .leftParen :: ts =>
    andThen ts (closedBy (.symbol .rightParen) (expr 1 ts)) fun c rest _ =>
      (stmt rest).map fun (body, rest) => (.loop (.nowhere c) (.nowhere body), rest)
  | .keyword .system :: .symbol .dot :: .name "out" :: .symbol .dot :: .name "println" ::
      .symbol .leftParen :: ts =>
    (closedBy (.symbol .semicolon) (closedBy (.symbol .rightParen) (expr 1 ts))).map
      fun (value, rest) => (.print (.nowhere value), rest)
  | .name target :: .symbol .assign :: ts =>
    (closedBy (.symbol .semicolon) (expr 1 ts)).map fun (value, rest) =>
      (.assign (.nowhere target) (.nowhere value), rest)
  | .name target :: .symbol .leftBracket :: ts =>
    (closedBy (.symbol .assign) (closedBy (.symbol .rightBracket) (expr 1 ts))).bind
      fun (index, rest) =>
        (closedBy (.symbol .semicolon) (expr 1 rest)).map fun (value, rest) =>
          (.arrayAssign (.nowhere target) (.nowhere index) (.nowhere value), rest)
  | ts => (varDecl ts).map fun (decl, rest) => (.varDecl decl, rest)
termination_by ts => (ts.length, 0)
decreasing_by
  all_goals
    simp only [Prod.lex_def, List.length_cons] at *
    omega

/-- Statements, as long as one can start. -/
def statements (ts : List Token) : Option (List (Located Stmt) × List Token) :=
  if Stmt.starts ts then
    andThen ts (stmt ts) fun s rest _ =>
      (statements rest).map fun (ss, rest) => (.nowhere s :: ss, rest)
  else some ([], ts)
termination_by (ts.length, 1)

end

/-! ## Reading what the grammar allows -/

variable {ts rest : List Token}

theorem ty_append (t : Ty) (x : String) :
    ty (t.tokens ++ .name x :: rest) = some (t, .name x :: rest) := by
  cases t <;> rfl

theorem separated_append {read : List Token → Option (α × List Token)} {tokens : α → List Token}
    {f : α → α} (hread : ∀ x rest, read (tokens x ++ rest) = some (f x, rest))
    (hne : ∀ x, tokens x ≠ []) (h : rest.head? ≠ some (.symbol .comma)) (x : Located α) :
    (xs : List (Located α)) →
      separated read (Token.commas ((x :: xs).map fun x => tokens x.node) ++ rest) =
        some ((x :: xs).map fun x => .nowhere (f x.node), rest)
  | [] => by
      show separated read (tokens x.node ++ rest) = _
      rw [separated, andThen_some (hread _ _) (length_lt_append (hne _))]
      split
      · exact absurd rfl h
      · rfl
  | x' :: xs => by
      have htail := separated_append hread hne h x' xs
      simp only [List.map_cons, Token.commas, List.append_assoc, List.cons_append] at htail ⊢
      rw [separated, andThen_some (hread _ _) (length_lt_append (hne _))]
      simp only [htail]
      rfl

/-- A declaration starts with a type and a name. -/
theorem varDecl_tokens (d : VarDecl) (rest : List Token) :
    ∃ us, d.tokens ++ rest = d.ty.node.tokens ++ .name d.first.node :: us ∧
      .name d.first.node :: us = Token.commas (d.idents.map fun id => [.name id.node]) ++
        .symbol .semicolon :: rest := by
  obtain ⟨t, first, _ | ⟨second, others⟩⟩ := d <;>
    simp [VarDecl.tokens, VarDecl.idents, Token.commas]

theorem varDecl_append (d : VarDecl) :
    varDecl (d.tokens ++ rest) = some (d.mapSpans fun _ => .nowhere, rest) := by
  obtain ⟨us, htokens, hnames⟩ := varDecl_tokens d rest
  have hread := @separated_append _ (.symbol .semicolon :: rest) name (fun x => [.name x]) id
    (fun _ _ => rfl) (fun _ => List.cons_ne_nil _ _) (by simp) d.first d.rest
  rw [← VarDecl.idents, ← hnames] at hread
  rw [htokens, varDecl, ty_append]
  simp only [Option.bind_some, hread]
  exact closedBy_some rfl

/-- What comes next is no `else`. -/
def NoElse (rest : List Token) : Prop := rest.head? ≠ some (.keyword .else)

theorem noElse_of_starts (h : Stmt.starts ts = true) : NoElse ts := by
  intro helse
  obtain ⟨ts, rfl⟩ := List.head?_eq_some_iff.mp helse
  cases h

theorem noElse_append {ss : List (Located Stmt)} (h : Stmt.DerivesList ts ss) (hr : NoElse rest) :
    NoElse (ts ++ rest) := by
  cases h with
  | nil => exact hr
  | cons hs _ =>
      rw [List.append_assoc]
      exact noElse_of_starts (hs.starts _)

theorem stmt_of_varDecl (d : VarDecl) :
    stmt (d.tokens ++ rest) =
      (varDecl (d.tokens ++ rest)).map fun (decl, rest) => (.varDecl decl, rest) := by
  obtain ⟨us, htokens, _⟩ := varDecl_tokens d rest
  rw [htokens]
  cases d.ty.node <;> rw [stmt] <;> simp [Ty.tokens]

mutual

/-- The parser reads what the grammar derives, whatever follows, except for an `else` after a
statement that ends in an `if` without one. -/
theorem stmt_append {isOpen : Bool} {ts : List Token} {s : Stmt} :
    Stmt.Derives isOpen ts s → ∀ rest, (isOpen = true → NoElse rest) →
      stmt (ts ++ rest) = some (s.mapSpans fun _ => .nowhere, rest)
  | .block hbody, rest, _ => by
      have hread := statements_append hbody (.symbol .rightBrace :: rest) rfl (by simp [NoElse])
      simp only [List.cons_append, List.append_assoc, List.nil_append]
      rw [stmt, closedBy_some hread]
      rfl
  | .ifThen hc ht, rest, hr => by
      have hthen := stmt_append ht rest fun _ => hr rfl
      simp only [List.cons_append, List.append_assoc]
      rw [stmt, andThen_some (closedBy_expr hc rfl) (length_lt_append_cons _),
        andThen_some hthen (length_lt_append ht.ne_nil)]
      split
      · exact absurd rfl (hr rfl)
      · rfl
  | .ifElse hc ht he, rest, hr => by
      -- The branch before the `else` is derived as one that ends in no open `if`, so it may be
      -- followed by an `else` and leaves it unread.
      have hthen us := stmt_append ht (.keyword .else :: us) nofun
      have helse := stmt_append he rest hr
      simp only [List.cons_append, List.append_assoc]
      rw [stmt, andThen_some (closedBy_expr hc rfl) (length_lt_append_cons _),
        andThen_some (hthen _) (length_lt_append ht.ne_nil)]
      simp only [helse]
      rfl
  | .loop hc hbody, rest, hr => by
      have hread := stmt_append hbody rest hr
      simp only [List.cons_append, List.append_assoc]
      rw [stmt, andThen_some (closedBy_expr hc rfl) (length_lt_append_cons _), hread]
      rfl
  | .print hvalue, rest, _ => by
      simp only [Stmt.printHead, List.cons_append, List.append_assoc, List.nil_append]
      rw [stmt, closedBy_some (closedBy_expr hvalue rfl)]
      rfl
  | .assign target hvalue, rest, _ => by
      simp only [List.cons_append, List.append_assoc, List.nil_append]
      rw [stmt, closedBy_expr hvalue rfl]
      rfl
  | .arrayAssign target hindex hvalue, rest, _ => by
      simp only [List.cons_append, List.append_assoc, List.nil_append]
      rw [stmt, closedBy_some (closedBy_expr hindex rfl)]
      dsimp only [Option.bind_some]
      rw [closedBy_expr hvalue rfl]
      rfl
  | .varDecl d, rest, _ => by
      rw [stmt_of_varDecl, varDecl_append]
      rfl

theorem statements_append {ts : List Token} {ss : List (Located Stmt)} :
    Stmt.DerivesList ts ss → ∀ rest, Stmt.starts rest = false → NoElse rest →
      statements (ts ++ rest) = some (Stmt.mapSpansList (fun _ => .nowhere) ss, rest)
  | .nil, rest, hstop, _ => by
      rw [List.nil_append, statements, hstop]
      rfl
  | .cons hs hss, rest, hstop, hr => by
      have hread := stmt_append hs _ fun _ => noElse_append hss hr
      rw [List.append_assoc, statements, if_pos (hs.starts _),
        andThen_some hread (length_lt_append hs.ne_nil), statements_append hss rest hstop hr]
      rfl

end

end Parse

end MiniJava
