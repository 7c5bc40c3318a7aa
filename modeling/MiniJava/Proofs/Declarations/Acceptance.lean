import MiniJava.Proofs.Declarations.Repeats

/-!
A program passes the check exactly if it is well declared. A check answers nothing if none of its
declarations repeats an earlier one of its scope, and in a scope none does if its names are distinct.
-/
namespace MiniJava

/-! ## Distinct names -/

theorem DistinctNames.nil : DistinctNames [] := List.nodup_nil

theorem DistinctNames.of_append_left {ids ids' : List Ident} (h : DistinctNames (ids ++ ids')) :
    DistinctNames ids := by
  unfold DistinctNames at h ⊢
  rw [List.map_append] at h
  exact (List.nodup_append.mp h).1

theorem DistinctNames.concat_iff {ids : List Ident} (h : DistinctNames ids) (id : Ident) :
    DistinctNames (ids ++ [id]) ↔ ¬∃ i ∈ ids, i.node = id.node := by
  rw [← List.mem_map]
  unfold DistinctNames at h ⊢
  rw [List.map_append, List.nodup_append]
  constructor
  · intro hn hid
    exact hn.2.2 _ hid _ (by simp) rfl
  · intro hid
    refine ⟨h, by simp, ?_⟩
    rintro a ha b hb rfl
    rw [List.map_singleton, List.mem_singleton] at hb
    exact hid (hb ▸ ha)

namespace Site

/-- Identifiers of one scope have distinct names if none of them repeats an earlier one. -/
theorem ofIdents_distinct_iff (kind : SiteKind) {earlier : List Ident} (h : DistinctNames earlier)
    (ids : List Ident) :
    (∀ site ∈ ofIdents kind earlier ids, ¬site.Repeats) ↔ DistinctNames (earlier ++ ids) := by
  induction ids generalizing earlier with
  | nil =>
      rw [List.append_nil]
      exact ⟨fun _ => h, fun _ => nofun⟩
  | cons id ids ih =>
      rw [ofIdents, List.forall_mem_cons, Site.Repeats, ← h.concat_iff id,
        List.append_cons earlier id ids]
      constructor
      · rintro ⟨hid, hids⟩
        exact (ih hid).mp hids
      · intro hids
        have hid := hids.of_append_left
        exact ⟨hid, (ih hid).mpr hids⟩

theorem ofScopes_distinct_iff (scopes : List (List Ident)) :
    (∀ site ∈ ofScopes scopes, ¬site.Repeats) ↔ ∀ scope ∈ scopes, DistinctNames scope := by
  rw [ofScopes, List.forall_mem_flatMap]
  simp only [ofIdents_distinct_iff .variable .nil, List.nil_append]

end Site

open CheckM Site

/-! ## Classes -/

theorem ClassDecl.verdict_check (c : ClassDecl) (s : Session) :
    c.check.verdict s = none ↔
      DistinctNames c.methodNames ∧ ∀ scope ∈ c.scopes, DistinctNames scope := by
  rw [verdict_check_eq_firstError?, firstError?_eq_none_iff]
  simp only [c.sites_perm.mem_iff]
  rw [List.forall_mem_append, ofIdents_distinct_iff _ .nil, ofScopes_distinct_iff]
  rfl

theorem MainClass.verdict_check (c : MainClass) (s : Session) :
    c.check.verdict s = none ↔ ∀ scope ∈ c.scopes, DistinctNames scope := by
  rw [verdict_check_eq_firstError?, firstError?_eq_none_iff]
  simp only [c.sites_perm.mem_iff]
  rw [ofScopes_distinct_iff]

/-! ## Programs -/

namespace Program

theorem duplicateClassNames_eq_nil (p : Program) :
    p.duplicateClassNames = [] ↔ DistinctNames p.classNames := by
  rw [duplicateClassNames, duplicateNames_eq_filterMap p.classNames fun _ => rfl,
    List.filterMap_eq_nil_iff]
  simp only [error?_eq_none_iff]
  exact ofIdents_distinct_iff .classDecl .nil p.classNames

theorem verdict_checkClasses (cs : List (Located ClassDecl)) (s : Session) :
    (checkClasses cs).verdict s = none ↔ ∀ c ∈ cs, c.node.check.verdict {} = none := by
  induction cs generalizing s with
  | nil => exact ⟨fun _ => by simp, fun _ => rfl⟩
  | cons c cs ih =>
      rw [checkClasses, verdict_bind_eq_none, ih, c.node.verdict_eq s {}, List.forall_mem_cons]

/-- The three things that are checked, each by itself. -/
theorem wellDeclared_iff (p : Program) :
    p.WellDeclared ↔ p.duplicateClassNames = [] ∧ p.mainClass.node.check.verdict {} = none ∧
      ∀ c ∈ p.classes, c.node.check.verdict {} = none := by
  simp only [p.duplicateClassNames_eq_nil, p.mainClass.node.verdict_check, ClassDecl.verdict_check]
  constructor
  · intro h
    have hv := h.scopes
    rw [scopes, List.forall_mem_append, List.forall_mem_flatMap] at hv
    exact ⟨h.classes, hv.1, fun c hc => ⟨h.methods c hc, hv.2 c hc⟩⟩
  · rintro ⟨hn, hm, hc⟩
    refine ⟨hn, fun c h => (hc c h).1, ?_⟩
    rw [scopes, List.forall_mem_append, List.forall_mem_flatMap]
    exact ⟨hm, fun c h => (hc c h).2⟩

theorem verdict_check (p : Program) (s : Session) :
    p.check.verdict s = none ↔ p.WellDeclared := by
  rw [wellDeclared_iff]
  unfold check
  cases p.duplicateClassNames with
  | nil =>
      simp only [verdict_bind_eq_none, verdict_checkClasses, p.mainClass.node.verdict_eq s {},
        true_and]
  | cons e es =>
      constructor
      · intro hn
        cases hn
      · rintro ⟨hn, -⟩
        cases hn

theorem checkAll_eq_nil (p : Program) (s : Session) : (p.checkAll s).1 = [] ↔ p.WellDeclared := by
  rw [checkAll_fst, wellDeclared_iff]
  simp only [List.append_eq_nil_iff, List.flatMap_eq_nil_iff, Option.toList_eq_nil_iff, and_assoc]

/-- A new checker accepts the program, and finds no error in it, exactly if it is well declared. -/
theorem accepted_iff_wellDeclared (p : Located Program) (trace : Trace) :
    (((Node.program p).check.attempt ⟨{}, trace⟩).1 = none ↔ p.node.WellDeclared) ∧
      ((p.node.checkAll ⟨{}, trace⟩).1 = [] ↔ p.node.WellDeclared) :=
  ⟨p.node.verdict_check ⟨{}, trace⟩, p.node.checkAll_eq_nil ⟨{}, trace⟩⟩

end Program

end MiniJava
