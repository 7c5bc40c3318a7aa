import MiniJava.Proofs.Declarations.Agreement
import MiniJava.Proofs.Declarations.Repeats
import MiniJava.Proofs.Syntax.Spans

/-!
How much of what is wrong a report tells. It has a diagnostic for every repeated class name, but the
check of a class ends at the first repeated name in it: of two in one class the second is lost.
-/
namespace MiniJava

namespace Site

theorem duplicate_of_error? {site : Site} {e : DeclarationError} (h : site.error? = some e) :
    e.duplicate = site.ident.span := by
  obtain ⟨first, -, rfl⟩ := error?_eq_some_iff.mp h
  obtain ⟨kind, earlier, ident⟩ := site
  cases kind <;> rfl

theorem filterMap_error?_map_duplicate (sites : List Site) :
    (sites.filterMap error?).map DeclarationError.duplicate =
      (repeated sites).map (·.ident.span) := by
  have hspans := (errors_forall₂ sites).flip.imp fun _ _ => duplicate_of_error?
  rwa [← List.forall₂_eq_eq_eq, List.forall₂_map_left_iff, List.forall₂_map_right_iff]

theorem toList_firstError? (sites : List Site) :
    (firstError? sites).toList = (sites.filterMap error?).take 1 := by
  rw [List.take_one, List.head?_filterMap]
  rfl

end Site

open Site

/-- Of lists that are cut to one element each, as many elements are left as there were if none had
more. -/
theorem length_flatMap_take_one {α β : Type} (f : α → List β) (as : List α) :
    (as.flatMap fun a => (f a).take 1).length ≤ (as.flatMap f).length ∧
      ((as.flatMap fun a => (f a).take 1).length = (as.flatMap f).length ↔
        ∀ a ∈ as, (f a).length ≤ 1) := by
  induction as with
  | nil => simp
  | cons a as ih =>
      obtain ⟨hle, heq⟩ := ih
      simp only [List.flatMap_cons, List.length_append, List.length_take, List.forall_mem_cons,
        ← heq]
      omega

namespace Program

/-- The declarations of the main class and those of each class, in source order. -/
def parts (p : Program) : List (List Site) :=
  p.mainClass.node.sites :: p.classes.map (·.node.sites)

theorem checkAll_eq_parts (p : Program) (s : Session) :
    (p.checkAll s).1 = p.classSites.filterMap error? ++
      p.parts.flatMap fun sites => (sites.filterMap error?).take 1 := by
  rw [checkAll_eq_sites, List.append_assoc, parts, List.flatMap_cons, List.flatMap_map]
  simp only [toList_firstError?]

/-- A report has a diagnostic for every repeated class name, then one for the first repeated name in
the main class and in each class that has any; so it has one for every repeated name only if no
class has two. -/
theorem report_first_of_each_class (p : Located Program) (s : Session) :
    let report := (p.node.report s).1
    let ofNames := repeated p.node.classSites
    report.diagnostics.map (·.context.span) =
        (ofNames ++ p.node.parts.flatMap fun sites => (repeated sites).take 1).map
          (fun site => some site.ident.span) ∧
      (report.count = (ofNames ++ p.node.parts.flatMap repeated).length ↔
        ∀ sites ∈ p.node.parts, (repeated sites).length ≤ 1) := by
  intro report ofNames
  have hspans : report.diagnostics.map (·.context.span) =
      (ofNames ++ p.node.parts.flatMap fun sites => (repeated sites).take 1).map
        fun site => some site.ident.span := by
    have hdiagnostics := p.node.diagnostics_report s s
    rw [checkAll_eq_parts] at hdiagnostics
    have hspan : (fun d : Diagnostic => d.context.span) ∘ DeclarationError.toDiagnostic =
        some ∘ DeclarationError.duplicate := rfl
    rw [hdiagnostics, List.map_map, hspan, ← List.map_map, List.map_append, List.map_flatMap]
    simp only [List.map_take, filterMap_error?_map_duplicate]
    simp only [← List.map_take, ← List.map_flatMap, ← List.map_append, List.map_map]
    rfl
  have hcount : report.count =
      (ofNames ++ p.node.parts.flatMap fun sites => (repeated sites).take 1).length := by
    have hlength := congrArg List.length hspans
    rwa [List.length_map, List.length_map] at hlength
  refine ⟨hspans, ?_⟩
  rw [hcount, List.length_append, List.length_append, Nat.add_left_cancel_iff]
  exact (length_flatMap_take_one repeated p.node.parts).2

/-- `class A { int x, x, x; }`, where the third `x` repeats the first as the second does. -/
theorem report_misses_third_field :
    let x (column : UInt64) : Ident := ⟨"x", .single ⟨none, 3, column⟩⟩
    let fields : Located VarDecl := .nowhere ⟨.nowhere .integer, x 7, [x 10, x 13]⟩
    let main : Located MainClass := .nowhere ⟨.nowhere "Main", .nowhere "args", .nowhere (.block [])⟩
    let p : Program := ⟨main, [.nowhere ⟨.nowhere "A", none, [fields], []⟩]⟩
    [x 7, x 10, x 13] ∈ p.scopes ∧
      some (x 13).span ∉ (p.report {}).1.diagnostics.map (·.context.span) := by
  intro x fields main p
  exact ⟨by decide, by decide⟩

end Program

end MiniJava
