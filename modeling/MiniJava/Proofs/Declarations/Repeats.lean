import Mathlib.Data.List.Forall2
import MiniJava.Proofs.Declarations.Sites
import MiniJava.Proofs.Syntax.Spans

/-!
Which of several repeated names is reported. A class is answered with the error at the first
declaration, in source order, whose name its own scope has already; the error cites where that scope
has it first, so never a scope that is closed by then.
-/
namespace MiniJava

namespace Site

/-- A declaration before this one in its scope has the same name. -/
def Repeats (site : Site) : Prop := ∃ id ∈ site.earlier, id.node = site.ident.node

instance (site : Site) : Decidable site.Repeats :=
  inferInstanceAs (Decidable (∃ id ∈ site.earlier, id.node = site.ident.node))

/-- The identifier is the first of the declaration's name in its scope, and comes before it. -/
def Cites (site : Site) (first : Ident) : Prop :=
  first.node = site.ident.node ∧ ∃ before after, site.earlier = before ++ first :: after ∧
    ∀ id ∈ before, id.node ≠ site.ident.node

/-- The error at the declaration, as a repetition of one at the span. -/
def errorCiting (site : Site) (first : Span) : DeclarationError :=
  match site.kind with
  | .classDecl => .duplicateClass site.ident.node first site.ident.span
  | .method className => .duplicateMethod className site.ident.node first site.ident.span
  | .variable => .duplicateVariable site.ident.node first site.ident.span

variable {site : Site}

theorem error?_eq_map (site : Site) :
    site.error? = (Scope.find? site.earlier site.ident.node).map site.errorCiting := rfl

theorem error?_eq_none_iff : site.error? = none ↔ ¬site.Repeats := by
  rw [error?_eq_map, Option.map_eq_none_iff, Scope.find?_eq_none_iff, List.mem_map]
  exact Iff.rfl

theorem error?_eq_some_iff {e : DeclarationError} :
    site.error? = some e ↔ ∃ first, site.Cites first ∧ e = site.errorCiting first.span := by
  simp only [error?_eq_map, Scope.find?, Option.map_map, Option.map_eq_some_iff,
    List.find?_eq_some_iff_append, beq_iff_eq, Bool.not_eq_true', beq_eq_false_iff_ne]
  constructor
  · rintro ⟨first, hfirst, rfl⟩
    exact ⟨first, hfirst, rfl⟩
  · rintro ⟨first, hfirst, rfl⟩
    exact ⟨first, hfirst, rfl⟩

theorem firstError?_eq_none_iff {sites : List Site} :
    firstError? sites = none ↔ ∀ site ∈ sites, ¬site.Repeats := by
  simp only [firstError?, List.findSome?_eq_none_iff, error?_eq_none_iff]

theorem isSome_error? (site : Site) : site.error?.isSome = decide site.Repeats := by
  rw [Bool.eq_iff_iff, decide_eq_true_iff, Option.isSome_iff_ne_none, ne_eq, error?_eq_none_iff,
    Decidable.not_not]

/-- The declarations that repeat an earlier one of their scope. -/
def repeated (sites : List Site) : List Site := sites.filter fun site => site.Repeats

/-- If every error is kept, there is one for each repeated declaration. -/
theorem errors_forall₂ (sites : List Site) :
    List.Forall₂ (fun site e => site.error? = some e) (repeated sites)
      (sites.filterMap error?) := by
  induction sites with
  | nil => exact .nil
  | cons site sites ih =>
      rw [repeated, List.filter_cons, List.filterMap_cons, ← isSome_error?]
      cases h : site.error? with
      | none => exact ih
      | some e => exact .cons h ih

/-- What declarations in source order are answered with: nothing if none of them repeats an earlier
name of its scope, otherwise the error at the first one that does. -/
inductive Answered : List Site → Option DeclarationError → Prop where
  | passed {sites} : (∀ site ∈ sites, ¬site.Repeats) → Answered sites none
  | failed {before site after first} : (∀ site ∈ before, ¬site.Repeats) → site.Cites first →
      Answered (before ++ site :: after) (some (site.errorCiting first.span))

theorem firstError?_answered (sites : List Site) : Answered sites (firstError? sites) := by
  cases h : firstError? sites with
  | none =>
      rw [firstError?, List.findSome?_eq_none_iff] at h
      exact .passed fun site hsite => error?_eq_none_iff.mp (h site hsite)
  | some e =>
      rw [firstError?, List.findSome?_eq_some_iff] at h
      obtain ⟨before, site, after, rfl, he, hbefore⟩ := h
      obtain ⟨first, hfirst, rfl⟩ := error?_eq_some_iff.mp he
      exact .failed (fun site hsite => error?_eq_none_iff.mp (hbefore site hsite)) hfirst

end Site

open Site

/-- Whatever state a checker is in, it answers a class and the main class with the error at the first
declaration in source order that repeats an earlier one of its scope, where their declarations are
the methods of the class and the variables of its scopes. The errors of a program are those of the
class names, then just these of the main class and of each class. -/
theorem first_repeat_reported :
    (∀ (c : Located ClassDecl) (s : Session),
      c.node.sites.Perm
          (ofIdents (.method c.node.name.node) [] c.node.methodNames ++ ofScopes c.node.scopes) ∧
        Answered c.node.sites ((Node.classDecl c).check.attempt s).1) ∧
      (∀ (c : Located MainClass) (s : Session),
        c.node.sites.Perm (ofScopes c.node.scopes) ∧
          Answered c.node.sites ((Node.mainClass c).check.attempt s).1) ∧
      ∀ (p : Located Program) (s s' : Session),
        (p.node.checkAll s).1 = p.node.duplicateClassNames ++
          ((Node.mainClass p.node.mainClass).check.attempt s').1.toList ++
          p.node.classes.flatMap fun c => ((Node.classDecl c).check.attempt s').1.toList := by
  refine ⟨fun c s => ⟨c.node.sites_perm, ?_⟩, fun c s => ⟨c.node.sites_perm, ?_⟩, ?_⟩
  · have hclass : ((Node.classDecl c).check.attempt s).1 = firstError? c.node.sites :=
      c.node.verdict_check_eq_firstError? s
    rw [hclass]
    exact firstError?_answered c.node.sites
  · have hmain : ((Node.mainClass c).check.attempt s).1 = firstError? c.node.sites :=
      c.node.verdict_check_eq_firstError? s
    rw [hmain]
    exact firstError?_answered c.node.sites
  · intro p s s'
    have hmain := p.node.mainClass.node.verdict_eq {} s'
    have hclasses : (p.node.classes.flatMap fun c => (c.node.check.verdict {}).toList) =
        p.node.classes.flatMap fun c => (c.node.check.verdict s').toList := by
      simp only [ClassDecl.verdict_eq _ {} s']
    rw [p.node.checkAll_fst, hmain, hclasses]
    rfl

/-- In `{ int x; } { int x, x; }` the last `x` repeats the one before it, not that of the block which
is closed by then. -/
example :
    let x (column : UInt64) : Ident := ⟨"x", .single ⟨none, 1, column⟩⟩
    let decl (id : Ident) (ids : List Ident) : Located Stmt :=
      .nowhere (.varDecl ⟨.nowhere .integer, id, ids⟩)
    let body : Located Stmt := .nowhere (.block [.nowhere (.block [decl (x 7) []]),
      .nowhere (.block [decl (x 18) [x 21]])])
    let c : MainClass := ⟨.nowhere "Main", .nowhere "args", body⟩
    (c.check.attempt {}).1 = some (.duplicateVariable "x" (x 18).span (x 21).span) := by
  decide

end MiniJava
