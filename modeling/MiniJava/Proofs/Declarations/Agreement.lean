import MiniJava.Proofs.Declarations.Reuse

/-!
Three ways to check a program, and that they agree: up to its first error, for the errors of all its
classes, and for a report. The check that stops ends in the first of the errors that the other one
goes on to collect, since what a class is answered does not depend on the classes before it.
-/
namespace MiniJava

open CheckM

theorem Report.diagnostics_foldl_add {α : Type} (f : α → Diagnostic) (as : List α) (r : Report) :
    (as.foldl (fun r a => r.add (f a)) r).diagnostics = r.diagnostics ++ as.map f := by
  induction as generalizing r with
  | nil => rw [List.foldl_nil, List.map_nil, List.append_nil]
  | cons a as ih =>
      rw [List.foldl_cons, ih, add, List.map_cons, List.append_assoc, List.singleton_append]

namespace Program

/-- The classes one after the other end in the first of the errors that each has by itself. -/
theorem verdict_checkClasses_eq_head? (cs : List (Located ClassDecl)) (s : Session) :
    (checkClasses cs).verdict s =
      (cs.flatMap fun c => (c.node.check.verdict {}).toList).head? := by
  induction cs generalizing s with
  | nil => rfl
  | cons c cs ih =>
      rw [checkClasses, verdict_bind, c.node.verdict_eq s {}, ih, List.flatMap_cons,
        List.head?_append, Option.head?_toList]

/-- The check that stops at the first error ends in the first of all errors. -/
theorem verdict_check_eq_head? (p : Program) (s s' : Session) :
    p.check.verdict s = (p.checkAll s').1.head? := by
  rw [checkAll_fst, List.append_assoc, List.head?_append, List.head?_append, Option.head?_toList]
  unfold check
  cases p.duplicateClassNames with
  | nil =>
      rw [verdict_bind, p.mainClass.node.verdict_eq s {}, verdict_checkClasses_eq_head?]
      rfl
  | cons e es => rfl

theorem diagnostics_report (p : Program) (s s' : Session) :
    (p.report s).1.diagnostics = (p.checkAll s').1.map DeclarationError.toDiagnostic := by
  rw [p.checkAll_fst_eq s' s]
  exact Report.diagnostics_foldl_add DeclarationError.toDiagnostic _ {}

/-- Whatever state their checkers are in, the three checks of a program agree on whether it passes;
the one that stops ends in the first of the errors that are collected; and the report holds the
diagnostics of these, in their order. -/
theorem checks_agree (p : Located Program) (s s' s'' : Session) :
    let accepted := ((Node.program p).check.attempt s).1
    let errors := (p.node.checkAll s').1
    let report := (p.node.report s'').1
    (accepted = none ↔ errors = []) ∧ (errors = [] ↔ report.isEmpty) ∧
      (∀ e es, errors = e :: es → accepted = some e) ∧
      report.diagnostics = errors.map DeclarationError.toDiagnostic := by
  intro accepted errors report
  have hfirst : accepted = errors.head? := p.node.verdict_check_eq_head? s s'
  have hreport : report.diagnostics = errors.map DeclarationError.toDiagnostic :=
    p.node.diagnostics_report s'' s'
  refine ⟨?_, ?_, ?_, hreport⟩
  · rw [hfirst, List.head?_eq_none_iff]
  · rw [Report.isEmpty, hreport, List.isEmpty_iff, List.map_eq_nil_iff]
  · intro e es h
    rw [hfirst, h, List.head?_cons]

end Program

end MiniJava
