import MiniJava.Layout.Printer
import MiniJava.Proofs.Grammar.StmtParser
import MiniJava.Proofs.Grammar.StmtText

/-!
An `else` after a printed statement. It goes to the last `if` of the statement that has none, if the
statement ends in such an `if`, and else it is no part of the statement. The branches before an
`else` of the statement itself play no part in this, since printing has put them into braces where
they end in an open `if`.
-/
namespace MiniJava

open Token

namespace Stmt

/-- The statement with a branch for the last `if` that has no `else`. -/
def withElse (branch : Located Stmt) : Stmt → Stmt
  | .ifThen c ⟨t, s⟩ =>
    if t.endsInOpenIf then .ifThen c ⟨withElse branch t, s⟩ else .ifElse c ⟨t, s⟩ branch
  | .ifElse c t ⟨e, s⟩ => .ifElse c t ⟨withElse branch e, s⟩
  | .loop c ⟨body, s⟩ => .loop c ⟨withElse branch body, s⟩
  | s => s

theorem Derives.endsInOpenIf_eq {isOpen : Bool} {ts : List Token} {s : Stmt} :
    Derives isOpen ts s → s.endsInOpenIf = isOpen
  | .block _ => rfl
  | .ifThen _ _ => rfl
  | .ifElse _ _ he => he.endsInOpenIf_eq
  | .loop _ hbody => hbody.endsInOpenIf_eq
  | .print _ => rfl
  | .assign _ _ => rfl
  | .arrayAssign _ _ _ => rfl
  | .varDecl _ => rfl

/-- A statement that ends in an open `if` can be continued with an `else`. It may still end in an
open `if` then, one that is further out. -/
theorem Derives.withElse {isOpen eOpen : Bool} {ts us : List Token} {s : Stmt}
    {branch : Located Stmt} (h : Derives isOpen ts s) (hopen : isOpen = true)
    (hbranch : Derives eOpen us branch.node) :
    ∃ isOpen', Derives isOpen' (ts ++ .keyword .else :: us) (s.withElse branch) := by
  match h with
  | .ifThen (t := t) hc ht =>
      have hsame := ht.endsInOpenIf_eq
      rw [Stmt.withElse]
      simp only [List.cons_append, List.append_assoc]
      cases hthenOpen : t.endsInOpenIf with
      | true =>
          obtain ⟨_, hthen⟩ := ht.withElse (hsame.symm.trans hthenOpen) hbranch
          exact ⟨true, .ifThen hc hthen⟩
      | false =>
          obtain rfl := hthenOpen.symm.trans hsame
          exact ⟨eOpen, .ifElse hc ht hbranch⟩
  | .ifElse hc ht he =>
      obtain ⟨isOpen', helse⟩ := he.withElse hopen hbranch
      simp only [List.cons_append, List.append_assoc]
      exact ⟨isOpen', .ifElse hc ht helse⟩
  | .loop hc hbody =>
      obtain ⟨isOpen', hloop⟩ := hbody.withElse hopen hbranch
      simp only [List.cons_append, List.append_assoc]
      exact ⟨isOpen', .loop hc hloop⟩
  | .block _ | .print _ | .assign _ _ | .arrayAssign _ _ _ | .varDecl _ => cases hopen

/-- The tokens of a printed statement derive it, with the braces that printing adds. -/
theorem text_derives {s : Located Stmt} (h : s.node.AllNames IsProgramName) (config : Config) :
    Derives s.node.endsInOpenIf (scan Keyword.ofProgram ((Node.stmt s).text config).toList)
      s.node.norm := by
  have htext : (Node.stmt s).text config = Lines.text config.indentWidth 0 s.node.lines :=
    String.empty_append
  rw [htext, Lines.scan_text]
  exact s.node.lines_derive h

/-- A printed statement with an `else` and another printed statement after it: if the first one ends
in an open `if`, all of it is read as the first one with the second as the branch that the `if`
lacks; if not, the first one is read with the braces that printing adds, and the `else` and what
follows it are left. The grammar has a statement of all of it in the first case alone. -/
theorem else_read_inside_iff_open {s e : Located Stmt} (hs : s.node.AllNames IsProgramName)
    (he : e.node.AllNames IsProgramName) (config config' : Config) :
    let ts := scan Keyword.ofProgram ((Node.stmt s).text config).toList
    let us := scan Keyword.ofProgram ((Node.stmt e).text config').toList
    (s.node.endsInOpenIf = true → Parse.stmt (ts ++ .keyword .else :: us) =
      some ((s.node.norm.withElse (e.map norm)).mapSpans fun _ => .nowhere, [])) ∧
    (s.node.endsInOpenIf = false → Parse.stmt (ts ++ .keyword .else :: us) =
      some (s.node.norm.mapSpans fun _ => .nowhere, .keyword .else :: us)) ∧
    ((∃ isOpen s', Derives isOpen (ts ++ .keyword .else :: us) s') ↔
      s.node.endsInOpenIf = true) := by
  intro ts us
  have hderives : Derives s.node.endsInOpenIf ts s.node.norm := text_derives hs config
  have hbranch : Derives e.node.endsInOpenIf us (e.map norm).node := text_derives he config'
  have hwhole {isOpen : Bool} {s' : Stmt} (h : Derives isOpen (ts ++ .keyword .else :: us) s') :
      Parse.stmt (ts ++ .keyword .else :: us) = some (s'.mapSpans fun _ => .nowhere, []) := by
    have hread := Parse.stmt_append h [] fun _ => by simp [Parse.NoElse]
    rwa [List.append_nil] at hread
  have hleft (hopen : s.node.endsInOpenIf = false) : Parse.stmt (ts ++ .keyword .else :: us) =
      some (s.node.norm.mapSpans fun _ => .nowhere, .keyword .else :: us) :=
    Parse.stmt_append hderives _ fun h => absurd h (by simp [hopen])
  refine ⟨?_, hleft, ?_, ?_⟩
  · intro hopen
    obtain ⟨_, h⟩ := hderives.withElse hopen hbranch
    exact hwhole h
  · rintro ⟨_, _, h⟩
    cases hopen : s.node.endsInOpenIf with
    | true => rfl
    | false =>
        have hrest := congrArg (Option.map Prod.snd) ((hwhole h).symm.trans (hleft hopen))
        cases hrest
  · intro hopen
    obtain ⟨isOpen', h⟩ := hderives.withElse hopen hbranch
    exact ⟨isOpen', _, h⟩

/-- `if (a) if (b) System.out.println(1); else while (c) if (d) System.out.println(2);` with an
`else System.out.println(3);` after it: the first branch was put into braces, and the `if` in the
loop takes the `else`. In a block the statement leaves it. -/
theorem else_read_inside_iff_open_loop :
    let print (value : Int64) : Located Stmt := .nowhere (.print (.nowhere (.int value)))
    let var (name : String) : Located Expr := .nowhere (.var name)
    let inThen : Located Stmt := .nowhere (.ifThen (var "b") (print 1))
    let inElse : Located Stmt := .nowhere (.loop (var "c") (.nowhere (.ifThen (var "d") (print 2))))
    let s : Located Stmt := .nowhere (.ifElse (var "a") inThen inElse)
    let tokens (s : Located Stmt) := scan Keyword.ofProgram ((Node.stmt s).text {}).toList
    (s.node.AllNames IsProgramName ∧ (print 3).node.AllNames IsProgramName) ∧
      Parse.stmt (tokens s ++ .keyword .else :: tokens (print 3)) =
        some (.ifElse (var "a") (.nowhere (.block [inThen])) (.nowhere (.loop (var "c")
          (.nowhere (.ifElse (var "d") (print 2) (print 3))))), []) ∧
      Parse.stmt (tokens (.nowhere (.block [s])) ++ .keyword .else :: tokens (print 3)) =
        some (.block [.nowhere (.ifElse (var "a") (.nowhere (.block [inThen])) inElse)],
          .keyword .else :: tokens (print 3)) := by
  intro print var inThen inElse s tokens
  have ha : IsProgramName "a" := by decide
  have hb : IsProgramName "b" := by decide
  have hc : IsProgramName "c" := by decide
  have hd : IsProgramName "d" := by decide
  have hs : s.node.AllNames IsProgramName := ⟨ha, ⟨hb, trivial⟩, hc, hd, trivial⟩
  have hblock : (Stmt.block [s]).AllNames IsProgramName := ⟨hs, trivial⟩
  have hthree : (print 3).node.AllNames IsProgramName := trivial
  exact ⟨⟨hs, hthree⟩, (else_read_inside_iff_open hs hthree {} {}).1 rfl,
    (else_read_inside_iff_open (s := .nowhere (.block [s])) hblock hthree {} {}).2.1 rfl⟩

end Stmt

end MiniJava
