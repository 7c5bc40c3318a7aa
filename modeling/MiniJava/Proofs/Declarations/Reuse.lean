import MiniJava.Proofs.Declarations.Confined

/-!
A checker carries nothing over from one use to the next: a new checker is new again after any
sequence of calls, failed ones included, and each call answers what it would have answered first.
-/
namespace MiniJava

open CheckM

/-! ## A new checker -/

namespace CheckM.Confined

variable {own : List Ident} {check : CheckM Unit}

theorem after_fresh (h : Confined own check) {s : Session} (hs : s.checker = {}) :
    (check.after s).checker = {} := by
  have hf := h.frame s
  rw [hs] at hf
  have hscopes : (check.after s).checker.scopes = [] := List.eq_nil_of_length_eq_zero hf.height
  have hclass : (check.after s).checker.currentClass = none := hf.currentClass.elim id id
  cases hc : (check.after s).checker
  rw [hc] at hscopes hclass
  cases hscopes
  cases hclass
  rfl

theorem verdict_fresh (h : Confined own check) {s : Session} (hs : s.checker = {}) :
    check.verdict s = check.verdict {} := by
  refine h.verdict_eq s {} ?_
  rw [hs]
  rfl

end CheckM.Confined

namespace Program

theorem classErrors_fst (cs : List (Located ClassDecl)) (s : Session) :
    (classErrors cs s).1 = cs.flatMap fun c => (c.node.check.verdict {}).toList := by
  induction cs generalizing s with
  | nil => rfl
  | cons c cs ih =>
      show (c.node.check.verdict s).toList ++ (classErrors cs (c.node.check.after s)).1 = _
      rw [ih, c.node.verdict_eq s {}, List.flatMap_cons]

theorem classErrors_fresh (cs : List (Located ClassDecl)) {s : Session} (hs : s.checker = {}) :
    (classErrors cs s).2.checker = {} := by
  induction cs generalizing s with
  | nil => exact hs
  | cons c cs ih => exact ih (c.node.check_confined.after_fresh hs)

theorem checkAll_eq (p : Program) (s : Session) :
    let started : Session :=
      { checker := {}, trace := s.trace.push (.checkingProgram p.classes.length) }
    let main := p.mainClass.node.check
    let classes := classErrors p.classes (main.after started)
    let errors := p.duplicateClassNames ++ (main.verdict started).toList ++ classes.1
    p.checkAll s = (errors, if errors.isEmpty then classes.2 else
      { classes.2 with trace := classes.2.trace.push (.duplicatesFound errors.length) }) := by
  intro started main classes errors
  have run : p.checkAll s = (do
      unless errors.isEmpty do
        modify fun s => { s with trace := s.trace.push (.duplicatesFound errors.length) }
      return errors : StateM Session _) classes.2 := rfl
  rw [run]
  cases errors with
  | nil => rfl
  | cons e es => rfl

/-- The errors of the class names, then what the main class and each class answer by themselves. -/
theorem checkAll_fst (p : Program) (s : Session) :
    (p.checkAll s).1 = p.duplicateClassNames ++ (p.mainClass.node.check.verdict {}).toList ++
      p.classes.flatMap fun c => (c.node.check.verdict {}).toList := by
  rw [checkAll_eq]
  simp only [classErrors_fst, p.mainClass.node.verdict_eq _ {}]

theorem checkAll_fst_eq (p : Program) (s s' : Session) : (p.checkAll s).1 = (p.checkAll s').1 := by
  rw [p.checkAll_fst s, p.checkAll_fst s']

theorem checkAll_fresh (p : Program) (s : Session) : (p.checkAll s).2.checker = {} := by
  have h : (classErrors p.classes (p.mainClass.node.check.after
      { checker := {}, trace := s.trace.push (.checkingProgram p.classes.length) })).2.checker = {} :=
    classErrors_fresh p.classes (p.mainClass.node.check_confined.after_fresh rfl)
  rw [checkAll_eq]
  dsimp only
  split
  · exact h
  · exact h

end Program

/-! ## Sequences of calls -/

namespace Checker

/-- A use of a checker: on any node up to the first error, or on a program for all its errors. -/
inductive Call where
  | accept (n : Node)
  | checkProgram (p : Program)
  | checkWithRecovery (p : Program)

inductive Answer where
  | verdict (error : Option DeclarationError)
  | errors (found : List DeclarationError)
  | report (r : Report)

namespace Call

def run : Call → StateM Session Answer
  | .accept n => do return .verdict (← n.check.attempt)
  | .checkProgram p => do return .errors (← p.checkAll)
  | .checkWithRecovery p => do return .report (← p.report)

/-- The calls one after the other with one checker. -/
def runAll : List Call → StateM Session (List Answer)
  | [] => pure []
  | call :: calls => do return (← run call) :: (← runAll calls)

theorem run_fresh (call : Call) {s : Session} (hs : s.checker = {}) :
    (call.run s).2.checker = {} := by
  cases call with
  | accept n => exact n.check_confined.after_fresh hs
  | checkProgram p => exact p.checkAll_fresh s
  | checkWithRecovery p => exact p.checkAll_fresh s

theorem run_fst (call : Call) {s : Session} (hs : s.checker = {}) :
    (call.run s).1 = (call.run {}).1 := by
  cases call with
  | accept n => exact congrArg Answer.verdict (n.check_confined.verdict_fresh hs)
  | checkProgram p => exact congrArg Answer.errors (p.checkAll_fst_eq s {})
  | checkWithRecovery p =>
      exact congrArg (fun es : List DeclarationError =>
        Answer.report (es.foldl (fun r e => r.add e.toDiagnostic) {})) (p.checkAll_fst_eq s {})

/-- Each call finds a new checker and leaves one. -/
theorem runAll_fresh (calls : List Call) {s : Session} (hs : s.checker = {}) :
    (runAll calls s).1 = calls.map (fun call => (call.run {}).1) ∧
      (runAll calls s).2.checker = {} := by
  induction calls generalizing s with
  | nil => exact ⟨rfl, hs⟩
  | cons call calls ih =>
      obtain ⟨answers, fresh⟩ := ih (call.run_fresh hs)
      refine ⟨?_, fresh⟩
      show (call.run s).1 :: (runAll calls (call.run s).2).1 = _
      rw [answers, call.run_fst hs, List.map_cons]

end Call

/-- Whether it succeeds or not, and whatever state it starts in, a check of any node leaves the
checker as it was but for what the node declares in the innermost scope; what a closed node is
answered does not depend on the state; and a new checker is new again after any sequence of calls,
each of which is answered as a new checker would answer it. -/
theorem carries_nothing_over :
    (∀ (n : Node) (s : Session), Frame n.declared s.checker (n.check.after s).checker) ∧
      (∀ n : Node, n.isClosed → ∀ s s' : Session, n.check.verdict s = n.check.verdict s') ∧
      ∀ (calls : List Call) (trace : Trace),
        (Call.runAll calls ⟨{}, trace⟩).2.checker = {} ∧
          (Call.runAll calls ⟨{}, trace⟩).1 = calls.map fun call => (call.run {}).1 := by
  refine ⟨fun n s => n.check_confined.frame s, fun n h s s' => n.verdict_eq_of_isClosed h s s', ?_⟩
  intro calls trace
  obtain ⟨answers, fresh⟩ := Call.runAll_fresh calls (s := ⟨{}, trace⟩) rfl
  exact ⟨fresh, answers⟩

end Checker

end MiniJava
