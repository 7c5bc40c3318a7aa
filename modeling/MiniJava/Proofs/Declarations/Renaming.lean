import Mathlib.Data.List.Basic
import MiniJava.Proofs.Declarations.Sites
import MiniJava.Proofs.Syntax.Spans
import MiniJava.Proofs.Transform.Rebuilding

/-!
Renaming the identifiers of a program and checking its declarations. The renamed program has the
renamed declarations in the same order, each after the same ones in its scope; so if no two of the
names declared fall together, it has the same errors with renamed names.
-/
namespace MiniJava

/-- Apply the function to the name of every identifier, and leave variable uses and class types. -/
def Transform.renameIdents (f : String → String) : Transform Id where
  ident i := i.map f

def DeclarationError.rename (f : String → String) : DeclarationError → DeclarationError
  | .duplicateClass name first duplicate => .duplicateClass (f name) first duplicate
  | .duplicateMethod className name first duplicate =>
    .duplicateMethod (f className) (f name) first duplicate
  | .duplicateVariable name first duplicate => .duplicateVariable (f name) first duplicate

/-! ## Renamed declarations -/

section Renamed

variable (f : String → String)

def SiteKind.rename : SiteKind → SiteKind
  | .method className => .method (f className)
  | kind => kind

def Site.rename (site : Site) : Site :=
  ⟨site.kind.rename f, site.earlier.map (·.map f), site.ident.map f⟩

theorem Site.ofIdents_rename (kind : SiteKind) (ids earlier : List Ident) :
    ofIdents (kind.rename f) (earlier.map (·.map f)) (ids.map (·.map f)) =
      (ofIdents kind earlier ids).map (rename f) := by
  induction ids generalizing earlier with
  | nil => rfl
  | cons id ids ih =>
      rw [List.map_cons, ofIdents, ofIdents, List.map_cons, ← ih, List.map_append]
      rfl

open Transform

namespace VarDecl

theorem idents_renamed (d : VarDecl) :
    ((renameIdents f).rebuildVarDecl d).idents = d.idents.map (·.map f) :=
  congrArg (d.first.map f :: ·) (onList_eq_map _ d.rest)

end VarDecl

namespace Stmt

theorem declared_renamed (span : Span) : (s : Stmt) →
    ((renameIdents f).rebuildStmt span s).node.declared = s.declared.map (·.map f)
  | .varDecl decl => decl.idents_renamed f
  | .ifThen _ ⟨t, u⟩ => declared_renamed u t
  | .ifElse _ ⟨t, u⟩ ⟨e, v⟩ => by
      rw [declared, List.map_append, ← declared_renamed u t, ← declared_renamed v e]
      rfl
  | .loop _ ⟨body, u⟩ => declared_renamed u body
  | .block _ | .print _ | .assign _ _ | .arrayAssign _ _ _ => rfl

mutual

theorem sites_renamed (span : Span) (earlier : List Ident) : (s : Stmt) →
    ((renameIdents f).rebuildStmt span s).node.sites (earlier.map (·.map f)) =
      (s.sites earlier).map (Site.rename f)
  | .block body => by
      rw [rebuildStmt, sites]
      exact sitesList_renamed [] body
  | .ifThen _ ⟨t, u⟩ => by
      rw [rebuildStmt, sites]
      exact sites_renamed u earlier t
  | .ifElse _ ⟨t, u⟩ ⟨e, v⟩ => by
      rw [rebuildStmt, sites, List.map_append, ← sites_renamed u earlier t,
        ← sites_renamed v (earlier ++ t.declared) e, List.map_append, ← declared_renamed f u t]
      rfl
  | .loop _ ⟨body, u⟩ => by
      rw [rebuildStmt, sites]
      exact sites_renamed u earlier body
  | .varDecl decl => by
      rw [rebuildStmt, sites, ← Site.ofIdents_rename, ← decl.idents_renamed f]
      rfl
  | .print _ => by rw [rebuildStmt, sites]; rfl
  | .assign _ _ => by rw [rebuildStmt, sites]; rfl
  | .arrayAssign _ _ _ => by rw [rebuildStmt, sites]; rfl

theorem sitesList_renamed (earlier : List Ident) : (ss : List (Located Stmt)) →
    sitesList (earlier.map (·.map f)) ((renameIdents f).onStmts ss) =
      (sitesList earlier ss).map (Site.rename f)
  | [] => rfl
  | ⟨s, span⟩ :: ss => by
      rw [onStmts, sitesList, List.map_append, ← sites_renamed span earlier s,
        ← sitesList_renamed (earlier ++ s.declared) ss, List.map_append,
        ← declared_renamed f span s]
      rfl

end

end Stmt

namespace MethodDecl

theorem formals_renamed (fs : List (Located Formal)) :
    (onList (renameIdents f).onFormal fs).map (·.node.name) =
      (fs.map (·.node.name)).map (·.map f) := by
  rw [onList_eq_map, List.map_map, List.map_map]
  rfl

theorem sites_renamed (m : MethodDecl) :
    ((renameIdents f).rebuildMethodDecl m).sites = m.sites.map (Site.rename f) := by
  rw [sites, sites, List.map_append, ← Site.ofIdents_rename, ← Stmt.sitesList_renamed,
    ← formals_renamed]
  rfl

end MethodDecl

namespace ClassDecl

theorem fields_renamed (ds : List (Located VarDecl)) :
    (onList (renameIdents f).onVarDecl ds).flatMap (·.node.idents) =
      (ds.flatMap (·.node.idents)).map (·.map f) := by
  rw [onList_eq_map, List.flatMap_map, List.map_flatMap]
  exact congrArg (ds.flatMap ·) (funext fun d => d.node.idents_renamed f)

theorem methodSites_renamed (className : String) (ms : List (Located MethodDecl))
    (earlier : List Ident) :
    methodSites (f className) (earlier.map (·.map f)) (onList (renameIdents f).onMethodDecl ms) =
      (methodSites className earlier ms).map (Site.rename f) := by
  induction ms generalizing earlier with
  | nil => rfl
  | cons m ms ih =>
      rw [methodSites, List.map_cons, List.map_append, ← m.node.sites_renamed f, ← ih,
        List.map_append]
      rfl

theorem sites_renamed (c : ClassDecl) :
    ((renameIdents f).rebuildClassDecl c).sites = c.sites.map (Site.rename f) := by
  rw [sites, sites, List.map_append, ← Site.ofIdents_rename, ← methodSites_renamed, ← fields_renamed]
  rfl

end ClassDecl

theorem MainClass.sites_renamed (c : MainClass) :
    ((renameIdents f).rebuildMainClass c).sites = c.sites.map (Site.rename f) := by
  obtain ⟨name, args, ⟨body, span⟩⟩ := c
  rw [sites, sites, List.map_append, ← Site.ofIdents_rename, ← Stmt.sites_renamed f span]
  rfl

theorem Program.classSites_renamed (p : Program) :
    ((renameIdents f).rebuildProgram p).classSites = p.classSites.map (Site.rename f) := by
  have hclasses : (onList (renameIdents f).onClassDecl p.classes).map (·.node.name) =
      (p.classes.map (·.node.name)).map (·.map f) := by
    rw [onList_eq_map, List.map_map, List.map_map]
    rfl
  rw [classSites, classSites, ← Site.ofIdents_rename, classNames, classNames, List.map_cons,
    ← hclasses]
  rfl

/-! ## Renamed errors -/

/-- No two of the identifiers that have different names get the same one. -/
def KeepsApart (ids : List Ident) : Prop :=
  ∀ a ∈ ids, ∀ b ∈ ids, f a.node = f b.node → a.node = b.node

variable {f} {all : List Ident}

theorem Scope.find?_renamed {scope : Scope} {id : Ident} (hf : KeepsApart f all) (hid : id ∈ all)
    (hs : scope ⊆ all) : Scope.find? (scope.map (·.map f)) (f id.node) = scope.find? id.node := by
  induction scope with
  | nil => rfl
  | cons i scope ih =>
      obtain ⟨hi, hs⟩ := List.cons_subset.mp hs
      have hname : ((i.map f).node == f id.node) = (i.node == id.node) := by
        rw [Bool.eq_iff_iff, beq_iff_eq, beq_iff_eq]
        exact ⟨hf i hi id hid, congrArg f⟩
      simp only [find?, List.map_cons, List.find?_cons, hname] at ih ⊢
      cases i.node == id.node with
      | true => rfl
      | false => exact ih hs

theorem Site.error?_rename {site : Site} (hf : KeepsApart f all) (h : site.Within all) :
    (site.rename f).error? = site.error?.map (DeclarationError.rename f) := by
  have hfind : Scope.find? (site.rename f).earlier (site.rename f).ident.node =
      Scope.find? site.earlier site.ident.node := Scope.find?_renamed hf h.1 h.2
  rw [error?, error?, hfind, Option.map_map]
  obtain ⟨kind, earlier, ident⟩ := site
  cases kind <;> rfl

theorem Site.firstError?_rename {sites : List Site} (hf : KeepsApart f all)
    (h : ∀ site ∈ sites, site.Within all) :
    firstError? (sites.map (rename f)) = (firstError? sites).map (DeclarationError.rename f) := by
  induction sites with
  | nil => rfl
  | cons site sites ih =>
      rw [List.forall_mem_cons] at h
      rw [List.map_cons, firstError?_cons, firstError?_cons, error?_rename hf h.1, ih h.2,
        Option.map_or]

theorem Site.filterMap_error?_rename {sites : List Site} (hf : KeepsApart f all)
    (h : ∀ site ∈ sites, site.Within all) :
    (sites.map (rename f)).filterMap error? =
      (sites.filterMap error?).map (DeclarationError.rename f) := by
  rw [List.filterMap_map, List.map_filterMap]
  exact List.filterMap_congr fun site hsite => error?_rename hf (h site hsite)

end Renamed

/-! ## Renamed programs -/

namespace Program

/-- The identifiers that the program declares: those of classes, of methods, and of the variables of
each scope. -/
def declaredIdents (p : Program) : List Ident :=
  p.classNames ++ p.classes.flatMap (·.node.methodNames) ++ p.scopes.flatten

theorem classSites_within (p : Program) : ∀ site ∈ p.classSites, site.Within p.declaredIdents :=
  Site.ofIdents_within fun _ hi => List.mem_append_left _ (List.mem_append_left _ hi)

theorem mainSites_within (p : Program) :
    ∀ site ∈ p.mainClass.node.sites, site.Within p.declaredIdents := by
  refine MainClass.sites_within fun i hi => List.mem_append_right _ ?_
  rw [scopes, List.flatten_append]
  exact List.mem_append_left _ hi

theorem sites_within (p : Program) {c : Located ClassDecl} (hc : c ∈ p.classes) :
    ∀ site ∈ c.node.sites, site.Within p.declaredIdents := by
  refine ClassDecl.sites_within ?_ ?_
  · intro i hi
    refine List.mem_append_left _ (List.mem_append_right _ ?_)
    exact List.mem_flatMap.mpr ⟨c, hc, hi⟩
  · intro i hi
    obtain ⟨scope, hscope, hi⟩ := List.mem_flatten.mp hi
    refine List.mem_append_right _ (List.mem_flatten.mpr ⟨scope, ?_, hi⟩)
    exact List.mem_append_right _ (List.mem_flatMap.mpr ⟨c, hc, hscope⟩)

theorem checkAll_renamed {p : Program} {f : String → String} (hf : KeepsApart f p.declaredIdents)
    (s s' : Session) :
    (((Transform.renameIdents f).rebuildProgram p).checkAll s').1 =
      (p.checkAll s).1.map (DeclarationError.rename f) := by
  have hmain : ((Transform.renameIdents f).rebuildProgram p).mainClass.node.sites =
      p.mainClass.node.sites.map (Site.rename f) := p.mainClass.node.sites_renamed f
  have hclasses : ((Transform.renameIdents f).rebuildProgram p).classes =
      p.classes.map (Transform.renameIdents f).onClassDecl := Transform.onList_eq_map _ p.classes
  rw [checkAll_eq_sites, checkAll_eq_sites, classSites_renamed, hmain, hclasses, List.flatMap_map,
    Site.filterMap_error?_rename hf p.classSites_within,
    Site.firstError?_rename hf p.mainSites_within, List.map_append, List.map_append,
    Option.toList_map, List.map_flatMap]
  congr 1
  refine List.flatMap_congr fun c hc => ?_
  have hclass : ((Transform.renameIdents f).onClassDecl c).node.sites =
      c.node.sites.map (Site.rename f) := c.node.sites_renamed f
  rw [hclass, Site.firstError?_rename hf (p.sites_within hc), Option.toList_map]

/-- Renaming the identifiers of a program such that the names it declares are kept apart renames its
errors: there are as many in the same order, each of the same kind and at the same places. Names
that are only referred to need not be kept apart. -/
theorem errors_rename (p : Located Program) (f : String → String)
    (hf : KeepsApart f p.node.declaredIdents) (s s' : Session) :
    let errors := (p.node.checkAll s).1
    let renamed : Located Program := (Transform.renameIdents f).onProgram p
    let errors' := (renamed.node.checkAll s').1
    (errors' = [] ↔ errors = []) ∧ errors' = errors.map (DeclarationError.rename f) := by
  intro errors renamed errors'
  have h : errors' = errors.map (DeclarationError.rename f) := checkAll_renamed hf s s'
  exact ⟨by rw [h, List.map_eq_nil_iff], h⟩

/-- The names of a class and of a variable change places in a program with an error of each kind. -/
theorem errors_rename_swapped :
    let swap (name : String) := if name = "A" then "x" else if name = "x" then "A" else name
    let method (name : String) (body : List (Located Stmt)) : Located MethodDecl :=
      .nowhere ⟨.nowhere .integer, .nowhere name, [], body, .nowhere .this⟩
    let twice : Located Stmt :=
      .nowhere (.varDecl ⟨.nowhere .integer, .nowhere "x", [.nowhere "x"]⟩)
    let main : Located MainClass := .nowhere ⟨.nowhere "A", .nowhere "x", .nowhere (.block [])⟩
    let a : Located ClassDecl := .nowhere ⟨.nowhere "A", none, [], [method "A" [twice]]⟩
    let b : Located ClassDecl := .nowhere ⟨.nowhere "B", none, [], [method "x" [], method "x" []]⟩
    let p : Program := ⟨main, [a, b]⟩
    let renamed : Located Program := (Transform.renameIdents swap).onProgram (.nowhere p)
    KeepsApart swap p.declaredIdents ∧ (renamed.node.checkAll {}).1 =
      [.duplicateClass "x" .nowhere .nowhere, .duplicateVariable "A" .nowhere .nowhere,
        .duplicateMethod "B" "A" .nowhere .nowhere] := by
  intro swap method twice main a b p renamed
  have happart : KeepsApart swap p.declaredIdents := by unfold KeepsApart; decide
  have herrors : (p.checkAll {}).1 =
      [.duplicateClass "A" .nowhere .nowhere, .duplicateVariable "x" .nowhere .nowhere,
        .duplicateMethod "B" "x" .nowhere .nowhere] := by decide
  refine ⟨happart, (errors_rename (.nowhere p) swap happart {} {}).2.trans ?_⟩
  exact congrArg (List.map (DeclarationError.rename swap)) herrors

end Program

end MiniJava
