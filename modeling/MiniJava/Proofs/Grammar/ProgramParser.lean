import MiniJava.Proofs.Grammar.Program
import MiniJava.Proofs.Grammar.StmtParser

/-!
A parser for methods, classes, programs and nodes of any kind.
-/
namespace MiniJava

namespace Parse

variable {α : Type}

/-- What comes after the tokens, if the text starts with them. -/
def after : List Token → List Token → Option (List Token)
  | [], ts => some ts
  | u :: us, t :: ts => if t = u then after us ts else none
  | _ :: _, [] => none

/-- Pieces one after the other, as long as one can start. -/
def many (starts : List Token → Bool) (read : List Token → Option (α × List Token))
    (ts : List Token) : Option (List (Located α) × List Token) :=
  if starts ts then
    andThen ts (read ts) fun a rest _ =>
      (many starts read rest).map fun (as, rest) => (.nowhere a :: as, rest)
  else some ([], ts)
termination_by ts.length

/-- The tokens can start a type. -/
def startsTy : List Token → Bool
  | .name _ :: _ | .keyword .int :: _ | .keyword .boolean :: _ => true
  | _ => false

/-- The tokens start with the word. -/
def startsWith (k : Keyword) (ts : List Token) : Bool := ts.head? = some (.keyword k)

def formal (ts : List Token) : Option (Formal × List Token) := do
  let (t, ts) ← ty ts
  let (x, ts) ← name ts
  return (⟨.nowhere t, .nowhere x⟩, ts)

def formals (ts : List Token) : Option (List (Located Formal) × List Token) :=
  if startsTy ts then separated formal ts else some ([], ts)

def methodDecl (ts : List Token) : Option (MethodDecl × List Token) := do
  let ts ← after [.keyword .public] ts
  let (returnType, ts) ← ty ts
  let (x, ts) ← name ts
  let ts ← after [.symbol .leftParen] ts
  let (fs, ts) ← formals ts
  let ts ← after [.symbol .rightParen, .symbol .leftBrace] ts
  let (body, ts) ← statements ts
  let ts ← after [.keyword .return] ts
  let (returnExpr, ts) ← expr 1 ts
  let ts ← after [.symbol .semicolon, .symbol .rightBrace] ts
  return (⟨.nowhere returnType, .nowhere x, fs, body, .nowhere returnExpr⟩, ts)

/-- The parent of a class, if one is named. -/
def parent : List Token → Option Ident × List Token
  | .keyword .extends :: .name x :: ts => (some (.nowhere x), ts)
  | ts => (none, ts)

def classDecl (ts : List Token) : Option (ClassDecl × List Token) := do
  let ts ← after [.keyword .class] ts
  let (x, ts) ← name ts
  let (parent, ts) := parent ts
  let ts ← after [.symbol .leftBrace] ts
  let (fields, ts) ← many startsTy varDecl ts
  let (methods, ts) ← many (startsWith .public) methodDecl ts
  let ts ← after [.symbol .rightBrace] ts
  return (⟨.nowhere x, parent, fields, methods⟩, ts)

def mainClass (ts : List Token) : Option (MainClass × List Token) := do
  let ts ← after [.keyword .class] ts
  let (x, ts) ← name ts
  let ts ← after (.symbol .leftBrace :: MainClass.mainHead) ts
  let (args, ts) ← name ts
  let ts ← after [.symbol .rightParen, .symbol .leftBrace] ts
  let (body, ts) ← stmt ts
  let ts ← after [.symbol .rightBrace, .symbol .rightBrace] ts
  return (⟨.nowhere x, .nowhere args, .nowhere body⟩, ts)

def program (ts : List Token) : Option (Program × List Token) := do
  let (mainClass, ts) ← mainClass ts
  let (classes, ts) ← many (startsWith .class) classDecl ts
  return (⟨.nowhere mainClass, classes⟩, ts)

/-- The node of the kind that the tokens are. -/
def node (kind : NodeKind) (ts : List Token) : Option Node :=
  match kind with
  | .program => (whole (program ts)).map fun p => .program (.nowhere p)
  | .mainClass => (whole (mainClass ts)).map fun c => .mainClass (.nowhere c)
  | .classDecl => (whole (classDecl ts)).map fun c => .classDecl (.nowhere c)
  | .varDecl => (whole (varDecl ts)).map fun d => .varDecl (.nowhere d)
  | .methodDecl => (whole (methodDecl ts)).map fun m => .methodDecl (.nowhere m)
  | .formal => (whole (formal ts)).map fun f => .formal (.nowhere f)
  | .ty => (whole (ty ts)).map fun t => .ty (.nowhere t)
  | .stmt => (whole (stmt ts)).map fun s => .stmt (.nowhere s)
  | .expr => (whole (expr 1 ts)).map fun e => .expr (.nowhere e)
  | .ident => (whole (name ts)).map fun x => .ident (.nowhere x)

/-! ## Reading what the grammar allows -/

@[simp] theorem after_nil (ts : List Token) : after [] ts = some ts := by rw [after]

@[simp] theorem after_cons (t : Token) (us ts : List Token) :
    after (t :: us) (t :: ts) = after us ts := by
  rw [after, if_pos rfl]

variable {rest : List Token}

theorem ne_nil_of_starts {starts : List Token → Bool} {ts : List Token}
    (hnil : starts [] = false) (h : starts (ts ++ []) = true) : ts ≠ [] := by
  rintro rfl
  rw [List.append_nil, hnil] at h
  cases h

theorem many_append {derives : List Token → α → Prop} {ts : List Token} {xs : List (Located α)}
    (h : Sequence derives ts xs) {starts : List Token → Bool}
    {read : List Token → Option (α × List Token)} {f : α → α}
    (hread : ∀ {ts x}, derives ts x → ∀ rest, read (ts ++ rest) = some (f x, rest))
    (hstarts : ∀ {ts x}, derives ts x → ∀ rest, starts (ts ++ rest) = true)
    (hnil : starts [] = false) (rest : List Token) (hstop : starts rest = false) :
    many starts read (ts ++ rest) = some (xs.map fun x => .nowhere (f x.node), rest) := by
  induction h with
  | nil =>
      rw [List.nil_append, many, hstop]
      rfl
  | cons hx _ ih =>
      -- A piece is not empty, so that reading it makes the text shorter.
      have hne := ne_nil_of_starts hnil (hstarts hx [])
      rw [List.append_assoc, many, if_pos (hstarts hx _),
        andThen_some (hread hx _) (length_lt_append hne), ih]
      rfl

theorem startsTy_tokens (t : Ty) : startsTy (t.tokens ++ rest) = true := by
  cases t <;> rfl

theorem formal_append (f : Formal) :
    formal (f.tokens ++ rest) = some (f.mapSpans fun _ => .nowhere, rest) := by
  rw [Formal.tokens, List.append_assoc, List.singleton_append, formal, ty_append]
  rfl

theorem startsTy_formals (f : Located Formal) (fs : List (Located Formal)) :
    startsTy (Token.commas ((f :: fs).map (·.node.tokens)) ++ rest) = true := by
  cases fs <;> simp [Token.commas, Formal.tokens, startsTy_tokens]

theorem formals_append (fs : List (Located Formal)) :
    formals (Token.commas (fs.map (·.node.tokens)) ++ .symbol .rightParen :: rest) =
      some (fs.map (·.mapSpans Formal.mapSpans fun _ => .nowhere),
        .symbol .rightParen :: rest) := by
  cases fs with
  | nil => rfl
  | cons f fs =>
      rw [formals, if_pos (startsTy_formals f fs)]
      exact separated_append (fun f _ => formal_append f) (by simp [Formal.tokens]) (by simp) f fs

theorem methodDecl_append {ts : List Token} {m : MethodDecl} (h : m.Derives ts)
    (rest : List Token) :
    methodDecl (ts ++ rest) = some (m.mapSpans fun _ => .nowhere, rest) := by
  cases h with
  | intro hbody hvalue =>
      have hread us := statements_append hbody (.keyword .return :: us) rfl (by simp [NoElse])
      have hexpr us := expr_before hvalue (.symbol .semicolon) us rfl
      simp only [MethodDecl.headTokens, List.cons_append, List.append_assoc, List.nil_append,
        methodDecl, after_cons, after_nil, Option.bind_eq_bind, Option.bind_some, ty_append, name,
        formals_append, hread, hexpr]
      rfl

theorem startsWith_methodDecl {ts : List Token} {m : MethodDecl} (h : m.Derives ts)
    (rest : List Token) : startsWith .public (ts ++ rest) = true := by
  cases h
  rfl

theorem startsTy_varDecl {ts : List Token} {d : VarDecl} (h : ts = d.tokens) (rest : List Token) :
    startsTy (ts ++ rest) = true := by
  obtain ⟨us, htokens, _⟩ := varDecl_tokens d rest
  rw [h, htokens]
  exact startsTy_tokens d.ty.node

theorem startsTy_methods {ts : List Token} {ms : List (Located MethodDecl)}
    (h : Sequence MethodDecl.Derives ts ms) (rest : List Token) :
    startsTy (ts ++ .symbol .rightBrace :: rest) = false := by
  cases h with
  | nil => rfl
  | cons hm _ =>
      cases hm
      rfl

theorem classDecl_append {ts : List Token} {c : ClassDecl} (h : c.Derives ts)
    (rest : List Token) :
    classDecl (ts ++ rest) = some (c.mapSpans fun _ => .nowhere, rest) := by
  cases h with
  | intro hfields hmethods =>
      have hvars := many_append hfields (fun hd _ => hd ▸ varDecl_append _) startsTy_varDecl rfl
        _ (startsTy_methods hmethods rest)
      have hmeths := many_append hmethods methodDecl_append startsWith_methodDecl rfl
        (.symbol .rightBrace :: rest) rfl
      obtain ⟨x, parent?, fields, methods⟩ := c
      cases parent? <;>
        simp only [ClassDecl.headTokens, List.cons_append, List.append_assoc, List.nil_append,
          classDecl, after_cons, after_nil, Option.bind_eq_bind, Option.bind_some, name, parent,
          hvars, hmeths] <;>
        rfl

theorem startsWith_classDecl {ts : List Token} {c : ClassDecl} (h : c.Derives ts)
    (rest : List Token) : startsWith .class (ts ++ rest) = true := by
  cases h
  rfl

theorem mainClass_append {ts : List Token} {c : MainClass} (h : c.Derives ts)
    (rest : List Token) :
    mainClass (ts ++ rest) = some (c.mapSpans fun _ => .nowhere, rest) := by
  cases h with
  | intro hbody =>
      have hread us := stmt_append hbody (.symbol .rightBrace :: us) fun _ => by simp [NoElse]
      simp only [MainClass.mainHead, List.cons_append, List.append_assoc, List.nil_append,
        mainClass, after_cons, after_nil, Option.bind_eq_bind, Option.bind_some, name, hread]
      rfl

theorem program_append {ts : List Token} {p : Program} (h : p.Derives ts)
    (rest : List Token) (hstop : startsWith .class rest = false) :
    program (ts ++ rest) = some (p.mapSpans fun _ => .nowhere, rest) := by
  cases h with
  | intro hmain hclasses =>
      have hread := many_append hclasses classDecl_append startsWith_classDecl rfl rest hstop
      simp only [List.append_assoc, program, mainClass_append hmain, Option.bind_eq_bind,
        Option.bind_some, hread]
      rfl

theorem whole_append {read : List Token → Option (α × List Token)} {ts : List Token} {a : α}
    (h : read (ts ++ []) = some (a, [])) : whole (read ts) = some a := by
  rw [List.append_nil] at h
  rw [h]
  rfl

/-- The parser reads what the grammar derives. -/
theorem node_eq {ts : List Token} {n : Node} (h : n.Derives ts) :
    node n.kind ts = some n.erase := by
  cases n with
  | program p => exact congrArg (Option.map _) (whole_append (program_append h [] rfl))
  | mainClass c => exact congrArg (Option.map _) (whole_append (mainClass_append h []))
  | classDecl c => exact congrArg (Option.map _) (whole_append (classDecl_append h []))
  | varDecl d =>
      subst h
      exact congrArg (Option.map _) (whole_append (varDecl_append d.node))
  | methodDecl m => exact congrArg (Option.map _) (whole_append (methodDecl_append h []))
  | formal f =>
      subst h
      exact congrArg (Option.map _) (whole_append (formal_append f.node))
  | ty t =>
      subst h
      obtain ⟨t, s⟩ := t
      cases t <;> rfl
  | stmt s =>
      obtain ⟨isOpen, h⟩ := h
      exact congrArg (Option.map _) (whole_append (stmt_append h [] fun _ => by simp [NoElse]))
  | expr e => exact congrArg (Option.map _) (expression_eq h)
  | ident i =>
      subst h
      rfl

end Parse

/-- Tokens are at most one node of a kind, up to spans. -/
theorem Node.Derives.unique {ts : List Token} {n n' : Node} (h : n.Derives ts) (h' : n'.Derives ts)
    (hkind : n'.kind = n.kind) : n'.SameButSpans n := by
  have hread := Parse.node_eq h'
  rw [hkind, Parse.node_eq h] at hread
  exact (Option.some.inj hread).symm

end MiniJava
