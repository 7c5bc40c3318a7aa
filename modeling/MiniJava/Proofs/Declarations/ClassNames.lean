import Mathlib.Data.Finset.Card
import Mathlib.Data.Fintype.Basic
import MiniJava.Proofs.Declarations.Repeats

/-!
Every repeated class name is reported, once: the errors of the class names are those at the
positions whose name stands at an earlier position, each against the first position of the name. So
there are as many as there are names over one of each.
-/
namespace MiniJava

/-! ## Positions in a list of identifiers -/

section Positions

variable {ids : List Ident}

/-- The name at the position stands at an earlier one as well. -/
def RepeatsAt (ids : List Ident) (j : Fin ids.length) : Prop := ∃ i < j, ids[i].node = ids[j].node

instance (j : Fin ids.length) : Decidable (RepeatsAt ids j) :=
  inferInstanceAs (Decidable (∃ i < j, ids[i].node = ids[j].node))

/-- The position is the first one of the name. -/
structure FirstAt (ids : List Ident) (name : String) (i : Fin ids.length) : Prop where
  isNamed : ids[i].node = name
  first : ∀ k < i, ids[k].node ≠ name

def repeatedPositions (ids : List Ident) : List (Fin ids.length) :=
  (List.finRange ids.length).filter fun j => RepeatsAt ids j

theorem exists_firstAt (j : Fin ids.length) : ∃ i, FirstAt ids ids[j].node i := by
  induction j using WellFoundedLT.induction with
  | ind j ih =>
    by_cases h : RepeatsAt ids j
    · obtain ⟨i, hij, hname⟩ := h
      rw [← hname]
      exact ih i hij
    · exact ⟨j, rfl, fun k hk hname => h ⟨k, hk, hname⟩⟩

theorem FirstAt.not_repeatsAt {name : String} {i : Fin ids.length} (h : FirstAt ids name i) :
    ¬RepeatsAt ids i := by
  rintro ⟨k, hk, hname⟩
  exact h.first k hk (hname.trans h.isNamed)

/-- Two positions of a name are the same if neither has it earlier. -/
theorem eq_of_not_repeatsAt {i j : Fin ids.length} (hi : ¬RepeatsAt ids i) (hj : ¬RepeatsAt ids j)
    (h : ids[i].node = ids[j].node) : i = j := by
  rcases lt_trichotomy i j with hij | hij | hij
  · exact absurd ⟨i, hij, h⟩ hj
  · exact hij
  · exact absurd ⟨j, hij, h.symm⟩ hi

/-- Each name has one position where it does not repeat. -/
theorem length_repeatedPositions (ids : List Ident) :
    (repeatedPositions ids).length + (ids.map Located.node).toFinset.card = ids.length := by
  let firsts := (List.finRange ids.length).filter fun j => !decide (RepeatsAt ids j)
  have hfirst : ∀ j ∈ firsts, ¬RepeatsAt ids j := by
    intro j hj
    simpa [firsts] using hj
  have hnodup : (firsts.map fun j => ids[j].node).Nodup := by
    refine List.Nodup.map_on ?_ ((List.nodup_finRange ids.length).filter _)
    exact fun i hi j hj => eq_of_not_repeatsAt (hfirst i hi) (hfirst j hj)
  have hsame : (ids.map Located.node).toFinset = (firsts.map fun j => ids[j].node).toFinset := by
    ext name
    rw [List.mem_toFinset, List.mem_toFinset, List.mem_map, List.mem_map]
    constructor
    · rintro ⟨id, hid, rfl⟩
      obtain ⟨j, hj, rfl⟩ := List.mem_iff_getElem.mp hid
      obtain ⟨i, hi⟩ := exists_firstAt (⟨j, hj⟩ : Fin ids.length)
      refine ⟨i, ?_, hi.isNamed⟩
      simpa [firsts] using hi.not_repeatsAt
    · rintro ⟨j, -, rfl⟩
      exact ⟨ids[j], List.getElem_mem _, rfl⟩
  have hsplit := List.length_eq_length_filter_add (l := List.finRange ids.length)
    fun j => decide (RepeatsAt ids j)
  rw [List.length_finRange] at hsplit
  rw [hsame, List.toFinset_card_of_nodup hnodup, List.length_map]
  exact hsplit.symm

end Positions

/-! ## The errors of the class names -/

namespace Site

theorem ofIdents_eq_map (kind : SiteKind) (ids earlier : List Ident) :
    ofIdents kind earlier ids =
      (List.finRange ids.length).map fun j => ⟨kind, earlier ++ ids.take j, ids[j]⟩ := by
  induction ids generalizing earlier with
  | nil => rfl
  | cons id ids ih =>
      simp only [ofIdents, ih, List.length_cons, List.finRange_succ, List.map_cons, List.map_map,
        Function.comp_def, List.append_assoc]
      simp

/-- The class name at the position, after those before it. -/
def ofClassName (ids : List Ident) (j : Fin ids.length) : Site := ⟨.classDecl, ids.take j, ids[j]⟩

variable {ids : List Ident} {j : Fin ids.length}

theorem repeats_ofClassName : (ofClassName ids j).Repeats ↔ RepeatsAt ids j := by
  constructor
  · rintro ⟨id, hid, hname⟩
    obtain ⟨i, hi, rfl⟩ := List.mem_take_iff_getElem.mp hid
    obtain ⟨hij, hlength⟩ := Nat.lt_min.mp hi
    exact ⟨⟨i, hlength⟩, hij, hname⟩
  · rintro ⟨i, hij, hname⟩
    exact ⟨ids[i], List.mem_take_iff_getElem.mpr ⟨i, by omega, rfl⟩, hname⟩

theorem Cites.firstAt {first : Ident} (h : (ofClassName ids j).Cites first) :
    ∃ i, FirstAt ids ids[j].node i ∧ ids[i] = first := by
  obtain ⟨hname, before, after, hsplit, hbefore⟩ := h
  have htake : ids.take j = before ++ first :: after := hsplit
  obtain ⟨rest, hids⟩ : ∃ rest, ids = before ++ first :: rest := by
    refine ⟨after ++ ids.drop j, ?_⟩
    rw [← List.cons_append, ← List.append_assoc, ← htake, List.take_append_drop]
  subst hids
  have hfirst : (before ++ first :: rest)[before.length] = first := by simp
  refine ⟨⟨before.length, by simp⟩, ⟨?_, ?_⟩, hfirst⟩
  · exact (congrArg Located.node hfirst).trans hname
  · intro k hk
    have hget : (before ++ first :: rest)[k] = before[k.val] := List.getElem_append_left hk
    rw [hget]
    exact hbefore _ (List.getElem_mem hk)

theorem ofIdents_kind {kind : SiteKind} {ids earlier : List Ident} :
    ∀ site ∈ ofIdents kind earlier ids, site.kind = kind := by
  rw [ofIdents_eq_map]
  intro site hsite
  obtain ⟨j, -, rfl⟩ := List.mem_map.mp hsite
  rfl

theorem ofScopes_kind {scopes : List (List Ident)} :
    ∀ site ∈ ofScopes scopes, site.kind = .variable := by
  intro site hsite
  obtain ⟨scope, -, hsite⟩ := List.mem_flatMap.mp hsite
  exact ofIdents_kind site hsite

end Site

def DeclarationError.isDuplicateClass : DeclarationError → Bool
  | .duplicateClass _ _ _ => true
  | .duplicateMethod _ _ _ _ | .duplicateVariable _ _ _ => false

open Site

theorem Site.isDuplicateClass_errorCiting {site : Site} {first : Span} :
    (site.errorCiting first).isDuplicateClass = true ↔ site.kind = .classDecl := by
  obtain ⟨kind, earlier, ident⟩ := site
  cases kind <;> simp [errorCiting, DeclarationError.isDuplicateClass]

theorem Site.isDuplicateClass_error? {site : Site} {e : DeclarationError}
    (h : site.error? = some e) : e.isDuplicateClass = true ↔ site.kind = .classDecl := by
  obtain ⟨first, -, rfl⟩ := error?_eq_some_iff.mp h
  exact isDuplicateClass_errorCiting

/-- The answer on declarations that are no classes is never an error of a class name. -/
theorem Site.isDuplicateClass_firstError? {sites : List Site}
    (h : ∀ site ∈ sites, site.kind ≠ .classDecl) :
    ∀ e ∈ (firstError? sites).toList, e.isDuplicateClass = false := by
  intro e he
  obtain ⟨site, hsite, he⟩ := List.exists_of_findSome?_eq_some (Option.mem_toList.mp he)
  rw [Bool.eq_false_iff, ne_eq, isDuplicateClass_error? he]
  exact h site hsite

theorem ClassDecl.sites_kind (c : ClassDecl) : ∀ site ∈ c.sites, site.kind ≠ .classDecl := by
  intro site hsite hkind
  rcases List.mem_append.mp (c.sites_perm.mem_iff.mp hsite) with hmethod | hvariable
  · cases (ofIdents_kind site hmethod).symm.trans hkind
  · cases (ofScopes_kind site hvariable).symm.trans hkind

theorem MainClass.sites_kind (c : MainClass) : ∀ site ∈ c.sites, site.kind ≠ .classDecl := by
  intro site hsite hkind
  cases (ofScopes_kind site (c.sites_perm.mem_iff.mp hsite)).symm.trans hkind

namespace Program

theorem classSites_eq_map (p : Program) :
    p.classSites = (List.finRange p.classNames.length).map (ofClassName p.classNames) :=
  ofIdents_eq_map .classDecl p.classNames []

theorem repeated_classSites (p : Program) :
    repeated p.classSites = (repeatedPositions p.classNames).map (ofClassName p.classNames) := by
  rw [classSites_eq_map, repeated, List.filter_map]
  simp only [Function.comp_def, repeats_ofClassName, repeatedPositions]

/-- The errors of the class names, position by position. -/
theorem classErrors_forall₂ (p : Program) :
    List.Forall₂ (fun j e => (ofClassName p.classNames j).error? = some e)
      (repeatedPositions p.classNames) (p.classSites.filterMap error?) := by
  have herrors := errors_forall₂ p.classSites
  rwa [repeated_classSites, List.forall₂_map_left_iff] at herrors

/-- The errors of class names come before all others. They are, position by position, one for each
class name that stands at an earlier position too, and each cites the first position of its name; so
they are as many as there are class names beyond one of each. -/
theorem repeated_class_names_reported (p : Located Program) (s : Session) :
    let names := p.node.classNames
    let errors := (p.node.checkAll s).1
    let found := errors.filter (·.isDuplicateClass)
    List.Forall₂ (fun j e => ∃ i, FirstAt names names[j].node i ∧
        e = .duplicateClass names[j].node names[i].span names[j].span)
      (repeatedPositions names) found ∧
      found <+: errors ∧
      found.length + (names.map Located.node).toFinset.card = names.length := by
  intro names errors found
  let ofNames := p.node.classSites.filterMap error?
  let others := (firstError? p.node.mainClass.node.sites).toList ++
    p.node.classes.flatMap fun c => (firstError? c.node.sites).toList
  have herrors : errors = ofNames ++ others := by
    rw [← List.append_assoc]
    exact p.node.checkAll_eq_sites s
  have hnames : ∀ e ∈ ofNames, e.isDuplicateClass = true := by
    intro e he
    obtain ⟨site, hsite, he⟩ := List.mem_filterMap.mp he
    exact (isDuplicateClass_error? he).mpr (ofIdents_kind site hsite)
  have hothers : ∀ e ∈ others, e.isDuplicateClass = false := by
    rw [List.forall_mem_append, List.forall_mem_flatMap]
    exact ⟨isDuplicateClass_firstError? p.node.mainClass.node.sites_kind,
      fun c _ => isDuplicateClass_firstError? c.node.sites_kind⟩
  have hfound : found = ofNames := by
    show errors.filter _ = ofNames
    rw [herrors, List.filter_append, List.filter_eq_self.mpr hnames, List.filter_eq_nil_iff.mpr,
      List.append_nil]
    intro e he
    rw [hothers e he]
    exact Bool.false_ne_true
  have hclasses := p.node.classErrors_forall₂
  rw [hfound]
  refine ⟨hclasses.imp fun j e he => ?_, herrors ▸ List.prefix_append ofNames others, ?_⟩
  · obtain ⟨first, hfirst, rfl⟩ := error?_eq_some_iff.mp he
    obtain ⟨i, hi, rfl⟩ := hfirst.firstAt
    exact ⟨i, hi, rfl⟩
  · rw [← hclasses.length_eq]
    exact length_repeatedPositions names

end Program

end MiniJava
