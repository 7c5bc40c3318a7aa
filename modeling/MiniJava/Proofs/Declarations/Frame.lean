import MiniJava.Declarations.Check
import MiniJava.Proofs.Declarations.Scopes

/-!
What a check may do to the checker. Whether it succeeds or not, a check leaves the stack as high as
it was and all scopes but the innermost as they were, and in the innermost it only adds what the node
declares there. What it answers depends on the innermost scope alone.
-/
namespace MiniJava

/-- The scope that the next declaration goes to; nothing is in it where none is open. -/
def Checker.innermost (c : Checker) : Scope := c.scopes.headD []

/-- `after` is `before` with some of `own` added to the innermost scope. -/
structure Checker.Frame (own : List Ident) (before after : Checker) : Prop where
  height : after.scopes.length = before.scopes.length
  outer : after.scopes.tail = before.scopes.tail
  kept : ∀ name span, before.innermost.find? name = some span →
    after.innermost.find? name = some span
  gained : ∀ id ∈ after.innermost, id ∈ before.innermost ∨ id ∈ own
  currentClass : after.currentClass = none ∨ after.currentClass = before.currentClass

/-- The innermost scopes are the same, or there are none. -/
def Checker.Agree (a b : Checker) : Prop := a.scopes.head? = b.scopes.head?

namespace CheckM

def verdict (check : CheckM Unit) (s : Session) : Option DeclarationError := (check.attempt s).1

/-- The session after the check, whether it succeeds or not. -/
def after (check : CheckM Unit) (s : Session) : Session := (check.attempt s).2

/-- The check adds to the innermost scope what is among `own`, and nothing else; what it answers and
adds does not depend on the rest of the checker. -/
structure Confined (own : List Ident) (check : CheckM Unit) : Prop where
  frame : ∀ s, Checker.Frame own s.checker (check.after s).checker
  verdict_eq : ∀ s s', s.checker.Agree s'.checker → check.verdict s = check.verdict s'
  agree : ∀ s s', s.checker.Agree s'.checker → (check.after s).checker.Agree (check.after s').checker

end CheckM

/-! ## Frames -/

namespace Checker.Frame

theorem refl (own : List Ident) (c : Checker) : Frame own c c :=
  ⟨rfl, rfl, fun _ _ h => h, fun _ h => .inl h, .inr rfl⟩

theorem trans {own own' : List Ident} {a b c : Checker} (h : Frame own a b) (h' : Frame own' b c) :
    Frame (own ++ own') a c where
  height := h'.height.trans h.height
  outer := h'.outer.trans h.outer
  kept := fun name span hs => h'.kept name span (h.kept name span hs)
  gained := fun id hid => by
    rcases h'.gained id hid with hb | ho
    · rcases h.gained id hb with ha | ho
      · exact .inl ha
      · exact .inr (List.mem_append_left _ ho)
    · exact .inr (List.mem_append_right _ ho)
  currentClass := by
    rcases h'.currentClass with hn | hb
    · exact .inl hn
    · rw [hb]; exact h.currentClass

theorem mono {own own' : List Ident} {a b : Checker} (h : Frame own a b) (sub : own ⊆ own') :
    Frame own' a b :=
  ⟨h.height, h.outer, h.kept, fun id hid => (h.gained id hid).imp_right (@sub id), h.currentClass⟩

/-- A check that keeps the whole stack stays in any frame. -/
theorem ofScopes {own : List Ident} {a b : Checker} (h : b.scopes = a.scopes)
    (hc : b.currentClass = none ∨ b.currentClass = a.currentClass) : Frame own a b where
  height := by rw [h]
  outer := by rw [h]
  kept := fun name span hs => by rwa [innermost, h]
  gained := fun id hid => .inl (by rwa [innermost, h] at hid)
  currentClass := hc

end Checker.Frame

theorem Scope.find?_append_of_some {scope : Scope} {name : String} {span : Span} (gained : Scope)
    (h : scope.find? name = some span) : Scope.find? (scope ++ gained) name = some span := by
  simp only [Scope.find?, Option.map_eq_some_iff, List.find?_append] at h ⊢
  obtain ⟨id, hid, rfl⟩ := h
  exact ⟨id, by rw [hid]; rfl, rfl⟩

/-! ## Agreement -/

namespace Checker.Agree

variable {a b : Checker}

theorem cases (h : a.Agree b) :
    (a.scopes = [] ∧ b.scopes = []) ∨
      ∃ scope outer outer', a.scopes = scope :: outer ∧ b.scopes = scope :: outer' := by
  unfold Agree at h
  cases ha : a.scopes with
  | nil =>
      rw [ha, List.head?_nil] at h
      exact .inl ⟨rfl, List.head?_eq_none_iff.mp h.symm⟩
  | cons scope outer =>
      rw [ha, List.head?_cons] at h
      obtain ⟨outer', hb⟩ := List.head?_eq_some_iff.mp h.symm
      exact .inr ⟨scope, outer, outer', rfl, hb⟩

theorem isEmpty_eq (h : a.Agree b) : a.scopes.isEmpty = b.scopes.isEmpty := by
  rcases h.cases with ⟨ha, hb⟩ | ⟨_, _, _, ha, hb⟩
  · rw [ha, hb]
  · rw [ha, hb]
    rfl

end Checker.Agree

/-! ## The steps of a check -/

namespace CheckM

theorem verdict_bind (a : CheckM Unit) (b : Unit → CheckM Unit) (s : Session) :
    verdict (a >>= b) s = (a.verdict s).or (verdict (b ()) (a.after s)) := by
  show verdict (EStateM.bind a b) s = _
  unfold verdict after attempt EStateM.bind
  cases a s <;> rfl

theorem after_bind (a : CheckM Unit) (b : Unit → CheckM Unit) (s : Session) :
    after (a >>= b) s = if (a.verdict s).isSome then a.after s else after (b ()) (a.after s) := by
  show after (EStateM.bind a b) s = _
  unfold verdict after attempt EStateM.bind
  cases a s <;> rfl

theorem verdict_bind_eq_none {a : CheckM Unit} {b : Unit → CheckM Unit} {s : Session} :
    verdict (a >>= b) s = none ↔ a.verdict s = none ∧ (b ()).verdict (a.after s) = none := by
  rw [verdict_bind, Option.or_eq_none_iff]

theorem after_bind_of_none {a : CheckM Unit} {b : Unit → CheckM Unit} {s : Session}
    (h : a.verdict s = none) : after (a >>= b) s = after (b ()) (a.after s) := by
  rw [after_bind, h]
  rfl

theorem verdict_withScope (check : CheckM Unit) (s : Session) :
    verdict (withScope check) s =
      check.verdict { s with checker.scopes := [] :: s.checker.scopes } := by
  unfold verdict attempt withScope
  dsimp only
  cases check _ <;> rfl

theorem after_withScope (check : CheckM Unit) (s : Session) :
    (after (withScope check) s).checker =
      let inside := (check.after { s with checker.scopes := [] :: s.checker.scopes }).checker
      { inside with scopes := inside.scopes.tail } := by
  unfold after attempt withScope
  dsimp only
  cases check _ <;> rfl

theorem verdict_inClass (name : String) (check : CheckM Unit) (s : Session) :
    verdict (inClass name check) s = check.verdict { s with checker.currentClass := some name } := by
  unfold verdict attempt inClass
  dsimp only
  cases check _ <;> rfl

theorem after_inClass (name : String) (check : CheckM Unit) (s : Session) :
    (after (inClass name check) s).checker =
      { (check.after { s with checker.currentClass := some name }).checker with
        currentClass := none } := by
  unfold after attempt inClass
  dsimp only
  cases check _ <;> rfl

theorem declareIn_closed {s : Session} (id : Ident) (h : s.checker.scopes = []) :
    declareIn id s = .ok () s := by
  obtain ⟨⟨scopes, c⟩, trace⟩ := s
  cases h
  rfl

/-- What declaring does where a scope is open. -/
theorem declareIn_cons {s : Session} {scope : Scope} {outer : List Scope} (id : Ident)
    (h : s.checker.scopes = scope :: outer) :
    declareIn id s =
      match scope.find? id.node with
      | some first => .error (.duplicateVariable id.node first id.span) s
      | none => .ok ()
        { checker := { s.checker with scopes := (scope ++ [id]) :: outer }
          trace := s.trace.push (.declared id.node) } := by
  obtain ⟨⟨scopes, c⟩, trace⟩ := s
  cases h
  unfold declareIn
  simp only [bind, EStateM.bind, get, getThe, MonadStateOf.get]
  delta EStateM.get
  dsimp only
  cases scope.find? id.node <;> rfl

theorem declareIn_seen {s : Session} {scope : Scope} {outer : List Scope} {id : Ident} {first : Span}
    (h : s.checker.scopes = scope :: outer) (hf : scope.find? id.node = some first) :
    declareIn id s = .error (.duplicateVariable id.node first id.span) s := by
  rw [declareIn_cons id h, hf]

theorem declareIn_fresh {s : Session} {scope : Scope} {outer : List Scope} {id : Ident}
    (h : s.checker.scopes = scope :: outer) (hf : scope.find? id.node = none) :
    declareIn id s = .ok ()
      { checker := { s.checker with scopes := (scope ++ [id]) :: outer }
        trace := s.trace.push (.declared id.node) } := by
  rw [declareIn_cons id h, hf]

theorem attempt_declare (ids : List Ident) (s : Session) :
    (declare ids).attempt s =
      (if s.checker.scopes.isEmpty then withScope (declareAll ids) else declareAll ids).attempt s :=
  rfl

/-- Where a scope is open, the names go into it. -/
theorem attempt_declare_cons (ids : List Ident) {s : Session} {scope : Scope} {outer : List Scope}
    (h : s.checker.scopes = scope :: outer) :
    (declare ids).attempt s = (declareAll ids).attempt s := by
  rw [attempt_declare, h]
  rfl

/-! ## Confined checks -/

namespace Confined

variable {own own' : List Ident} {check next : CheckM Unit}

theorem pure : Confined [] (pure ()) where
  frame := fun s => .refl _ s.checker
  verdict_eq := fun _ _ _ => rfl
  agree := fun _ _ h => h

theorem throw (e : DeclarationError) : Confined [] (throw e) where
  frame := fun s => .refl _ s.checker
  verdict_eq := fun _ _ _ => rfl
  agree := fun _ _ h => h

theorem mono (h : Confined own check) (sub : own ⊆ own') : Confined own' check :=
  ⟨fun s => (h.frame s).mono sub, h.verdict_eq, h.agree⟩

theorem bind (h : Confined own check) (h' : Confined own' next) :
    Confined (own ++ own') (check >>= fun _ => next) where
  frame := fun s => by
    rw [after_bind]
    split
    · exact (h.frame s).mono (List.subset_append_left own own')
    · exact (h.frame s).trans (h'.frame _)
  verdict_eq := fun s s' hs => by
    rw [verdict_bind, verdict_bind, h.verdict_eq s s' hs, h'.verdict_eq _ _ (h.agree s s' hs)]
  agree := fun s s' hs => by
    rw [after_bind, after_bind, h.verdict_eq s s' hs]
    split
    · exact h.agree s s' hs
    · exact h'.agree _ _ (h.agree s s' hs)

/-- An event changes nothing but the trace, whatever it says about the session. -/
theorem emit (event : Session → Event) (h : Confined own check) :
    Confined own (get >>= fun s => CheckM.emit (event s) >>= fun _ => check) where
  frame := fun s => h.frame { s with trace := s.trace.push (event s) }
  verdict_eq := fun s s' hs =>
    h.verdict_eq { s with trace := s.trace.push (event s) }
      { s' with trace := s'.trace.push (event s') } hs
  agree := fun s s' hs =>
    h.agree { s with trace := s.trace.push (event s) }
      { s' with trace := s'.trace.push (event s') } hs

/-- A scope of its own hides from the check which scopes are around it. -/
theorem verdict_withScope (h : Confined own check) (s s' : Session) :
    (withScope check).verdict s = (withScope check).verdict s' := by
  rw [CheckM.verdict_withScope, CheckM.verdict_withScope]
  exact h.verdict_eq _ _ rfl

theorem scopes_withScope (h : Confined own check) (s : Session) :
    ((withScope check).after s).checker.scopes = s.checker.scopes := by
  rw [after_withScope]
  exact (h.frame { s with checker.scopes := [] :: s.checker.scopes }).outer

theorem withScope (h : Confined own check) : Confined [] (withScope check) where
  frame := fun s => by
    refine .ofScopes (h.scopes_withScope s) ?_
    rw [after_withScope]
    exact (h.frame { s with checker.scopes := [] :: s.checker.scopes }).currentClass
  verdict_eq := fun s s' _ => h.verdict_withScope s s'
  agree := fun s s' hs => by
    rw [Checker.Agree, h.scopes_withScope, h.scopes_withScope]
    exact hs

theorem inClass (name : String) (h : Confined own check) : Confined own (inClass name check) where
  frame := fun s => by
    rw [after_inClass]
    have hf := h.frame { s with checker.currentClass := some name }
    exact ⟨hf.height, hf.outer, hf.kept, hf.gained, .inl rfl⟩
  verdict_eq := fun s s' hs => by
    rw [verdict_inClass, verdict_inClass]
    exact h.verdict_eq _ _ hs
  agree := fun s s' hs => by
    rw [after_inClass, after_inClass]
    exact h.agree { s with checker.currentClass := some name }
      { s' with checker.currentClass := some name } hs

theorem declareIn (id : Ident) : Confined [id] (declareIn id) where
  frame := fun s => by
    cases h : s.checker.scopes with
    | nil =>
        simp only [after, attempt, declareIn_closed id h]
        exact .refl _ _
    | cons scope outer =>
        cases hf : scope.find? id.node with
        | some first =>
            simp only [after, attempt, declareIn_seen h hf]
            exact .refl _ _
        | none =>
            simp only [after, attempt, declareIn_fresh h hf]
            refine ⟨by simp [h], by simp [h], ?_, ?_, .inr rfl⟩
            · intro name span hs
              rw [Checker.innermost, h] at hs
              exact Scope.find?_append_of_some [id] hs
            · intro i hi
              rw [Checker.innermost, h]
              exact List.mem_append.mp hi
  verdict_eq := fun s s' hs => by
    rcases hs.cases with ⟨h, h'⟩ | ⟨scope, outer, outer', h, h'⟩
    · simp only [verdict, attempt, declareIn_closed id h, declareIn_closed id h']
    · cases hf : scope.find? id.node with
      | some first => simp only [verdict, attempt, declareIn_seen h hf, declareIn_seen h' hf]
      | none => simp only [verdict, attempt, declareIn_fresh h hf, declareIn_fresh h' hf]
  agree := fun s s' hs => by
    rcases hs.cases with ⟨h, h'⟩ | ⟨scope, outer, outer', h, h'⟩
    · simpa only [after, attempt, declareIn_closed id h, declareIn_closed id h'] using hs
    · cases hf : scope.find? id.node with
      | some first =>
          simpa only [after, attempt, declareIn_seen h hf, declareIn_seen h' hf] using hs
      | none =>
          simp only [after, attempt, declareIn_fresh h hf, declareIn_fresh h' hf, Checker.Agree,
            List.head?_cons]

theorem declareAll (ids : List Ident) : Confined ids (declareAll ids) := by
  induction ids with
  | nil => exact pure
  | cons id ids ih => exact (declareIn id).bind ih

/-- Where no scope is open, the declaration is in one that ends with it. -/
theorem declare (ids : List Ident) : Confined ids (declare ids) where
  frame := fun s => by
    simp only [after, attempt_declare]
    split
    · exact ((declareAll ids).withScope.frame s).mono (List.nil_subset ids)
    · exact (declareAll ids).frame s
  verdict_eq := fun s s' hs => by
    simp only [verdict, attempt_declare, hs.isEmpty_eq]
    split
    · exact (declareAll ids).withScope.verdict_eq s s' hs
    · exact (declareAll ids).verdict_eq s s' hs
  agree := fun s s' hs => by
    simp only [after, attempt_declare, hs.isEmpty_eq]
    split
    · exact (declareAll ids).withScope.agree s s' hs
    · exact (declareAll ids).agree s s' hs

end Confined

end CheckM

end MiniJava
