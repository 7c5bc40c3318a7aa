import MiniJava.Proofs.Declarations.Reuse
import MiniJava.Proofs.Syntax.Spans

/-!
A check takes spans along and never looks at them. A run on a tree with changed spans goes the same
way as the run on the tree itself, through the same sessions with changed spans, and ends in the
same error with changed spans.
-/
namespace MiniJava

variable (g : Span → Span)

/-! ## Sessions with changed spans -/

def DeclarationError.mapSpans : DeclarationError → DeclarationError
  | .duplicateClass name first duplicate => .duplicateClass name (g first) (g duplicate)
  | .duplicateMethod className name first duplicate =>
    .duplicateMethod className name (g first) (g duplicate)
  | .duplicateVariable name first duplicate => .duplicateVariable name (g first) (g duplicate)

def Scope.mapSpans (scope : Scope) : Scope := scope.map (·.respan g)

def Session.mapSpans (s : Session) : Session where
  checker := { s.checker with scopes := s.checker.scopes.map (Scope.mapSpans g) }
  trace := s.trace

theorem Scope.find?_mapSpans (scope : Scope) (name : String) :
    Scope.find? (scope.mapSpans g) name = (scope.find? name).map g := by
  induction scope with
  | nil => rfl
  | cons id scope ih =>
      simp only [find?, mapSpans, List.map_cons, List.find?_cons] at ih ⊢
      cases h : id.node == name with
      | true => simp [Located.respan, h]
      | false => simpa [Located.respan, h] using ih

namespace CheckM

/-- What a run comes to, with changed spans. -/
def mapResult : EStateM.Result DeclarationError Session Unit →
    EStateM.Result DeclarationError Session Unit
  | .ok _ s => .ok () (s.mapSpans g)
  | .error e s => .error (e.mapSpans g) (s.mapSpans g)

/-- The second check does with changed spans what the first one does. -/
def Follows (check check' : CheckM Unit) : Prop :=
  ∀ s, check' (s.mapSpans g) = mapResult g (check s)

namespace Follows

variable {g} {check check' next next' : CheckM Unit}

theorem pure : Follows g (pure ()) (pure ()) := fun _ => rfl

theorem throw (e : DeclarationError) : Follows g (throw e) (throw (e.mapSpans g)) := fun _ => rfl

theorem bind (h : Follows g check check') (h' : Follows g next next') :
    Follows g (check >>= fun _ => next) (check' >>= fun _ => next') := by
  intro s
  show EStateM.bind check' (fun _ => next') (s.mapSpans g) =
    mapResult g (EStateM.bind check (fun _ => next) s)
  unfold EStateM.bind
  rw [h s]
  cases check s with
  | ok _ s => exact h' s
  | error e s => rfl

/-- An event says nothing of spans, so it is the same in both runs. -/
theorem emit (event : Session → Event) (he : ∀ s, event (s.mapSpans g) = event s)
    (h : Follows g check check') :
    Follows g (get >>= fun s => CheckM.emit (event s) >>= fun _ => check)
      (get >>= fun s => CheckM.emit (event s) >>= fun _ => check') := by
  intro s
  show check' { (s.mapSpans g) with trace := s.trace.push (event (s.mapSpans g)) } =
    mapResult g (check { s with trace := s.trace.push (event s) })
  rw [he]
  exact h { s with trace := s.trace.push (event s) }

theorem withScope (h : Follows g check check') :
    Follows g (withScope check) (withScope check') := by
  intro s
  have hs : check' { (s.mapSpans g) with checker.scopes := [] :: (s.mapSpans g).checker.scopes } =
      mapResult g (check { s with checker.scopes := [] :: s.checker.scopes }) :=
    h { s with checker.scopes := [] :: s.checker.scopes }
  unfold CheckM.withScope
  dsimp only
  rw [hs]
  cases check { s with checker.scopes := [] :: s.checker.scopes } with
  | ok _ s => simp [mapResult, Session.mapSpans]
  | error e s => simp [mapResult, Session.mapSpans]

theorem inClass (name : String) (h : Follows g check check') :
    Follows g (inClass name check) (inClass name check') := by
  intro s
  have hs : check' { (s.mapSpans g) with checker.currentClass := some name } =
      mapResult g (check { s with checker.currentClass := some name }) :=
    h { s with checker.currentClass := some name }
  unfold CheckM.inClass
  dsimp only
  rw [hs]
  cases check { s with checker.currentClass := some name } with
  | ok _ s => rfl
  | error e s => rfl

theorem declareIn (id : Ident) : Follows g (declareIn id) (declareIn (id.respan g)) := by
  intro s
  cases h : s.checker.scopes with
  | nil =>
      have h' : (s.mapSpans g).checker.scopes = [] := by simp [Session.mapSpans, h]
      rw [declareIn_closed _ h, declareIn_closed _ h']
      rfl
  | cons scope outer =>
      have h' : (s.mapSpans g).checker.scopes =
          scope.mapSpans g :: outer.map (Scope.mapSpans g) := by
        simp [Session.mapSpans, h]
      have hfind : (scope.mapSpans g).find? (id.respan g).node = (scope.find? id.node).map g :=
        Scope.find?_mapSpans g scope id.node
      cases hf : scope.find? id.node with
      | some first =>
          rw [hf] at hfind
          rw [declareIn_seen h hf, declareIn_seen h' hfind]
          rfl
      | none =>
          rw [hf] at hfind
          rw [declareIn_fresh h hf, declareIn_fresh h' hfind]
          simp [mapResult, Session.mapSpans, Scope.mapSpans, Located.respan]

theorem declareAll (ids : List Ident) :
    Follows g (declareAll ids) (declareAll (ids.map (·.respan g))) := by
  induction ids with
  | nil => exact pure
  | cons id ids ih => exact (declareIn id).bind ih

theorem declare (ids : List Ident) :
    Follows g (declare ids) (declare (ids.map (·.respan g))) := by
  intro s
  have run (ids : List Ident) (s : Session) : CheckM.declare ids s =
      (if s.checker.scopes.isEmpty then CheckM.withScope (CheckM.declareAll ids)
        else CheckM.declareAll ids) s := rfl
  rw [run, run, Session.mapSpans, List.isEmpty_map]
  split
  · exact (declareAll ids).withScope s
  · exact declareAll ids s

end Follows

end CheckM

open CheckM

/-- From a new checker, the second check ends in the same error with changed spans. -/
theorem CheckM.Follows.verdict_eq {check check' : CheckM Unit} (h : Follows g check check') :
    check'.verdict {} = (check.verdict {}).map (DeclarationError.mapSpans g) := by
  have hs : check' {} = mapResult g (check {}) := h {}
  unfold verdict attempt
  rw [hs]
  cases check {} <;> rfl

/-! ## Every check -/

namespace Stmt

mutual

theorem check_follows : (s : Stmt) → Follows g s.check (s.mapSpans g).check
  | .block body => by rw [mapSpans, check, check]; exact (checkList_follows body).withScope
  | .ifThen _ ⟨t, _⟩ => by rw [mapSpans, check, check]; exact check_follows t
  | .ifElse _ ⟨t, _⟩ ⟨e, _⟩ => by
      rw [mapSpans, check, check]
      exact (check_follows t).bind (check_follows e)
  | .loop _ ⟨body, _⟩ => by rw [mapSpans, check, check]; exact check_follows body
  | .varDecl decl => by rw [mapSpans, check, check]; exact .declare decl.idents
  | .print _ => by rw [mapSpans, check, check]; exact .pure
  | .assign _ _ => by rw [mapSpans, check, check]; exact .pure
  | .arrayAssign _ _ _ => by rw [mapSpans, check, check]; exact .pure

theorem checkList_follows : (ss : List (Located Stmt)) →
    Follows g (checkList ss) (checkList (mapSpansList g ss))
  | [] => by rw [mapSpansList, checkList]; exact .pure
  | ⟨s, _⟩ :: ss => by
      rw [mapSpansList, checkList, checkList]
      exact (check_follows s).bind (checkList_follows ss)

end

end Stmt

namespace MethodDecl

theorem checkFormals_follows (fs : List (Located Formal)) :
    Follows g (checkFormals fs) (checkFormals (fs.map (·.mapSpans Formal.mapSpans g))) := by
  induction fs with
  | nil => exact .pure
  | cons f fs ih => exact (Follows.declare [f.node.name]).bind ih

theorem check_follows (m : MethodDecl) : Follows g m.check (m.mapSpans g).check :=
  Follows.emit (fun s => .checkingMethod s.checker.currentClass m.name.node) (fun _ => rfl)
    ((checkFormals_follows g m.formals).bind (Stmt.checkList_follows g m.body)).withScope

end MethodDecl

namespace ClassDecl

theorem checkFields_follows (ds : List (Located VarDecl)) :
    Follows g (checkFields ds) (checkFields (ds.map (·.mapSpans VarDecl.mapSpans g))) := by
  induction ds with
  | nil => exact .pure
  | cons d ds ih => exact (Follows.declare d.node.idents).bind ih

theorem checkMethods_follows (className : String) (ms : List (Located MethodDecl)) (seen : Scope) :
    Follows g (checkMethods className seen ms)
      (checkMethods className (seen.mapSpans g) (ms.map (·.mapSpans MethodDecl.mapSpans g))) := by
  induction ms generalizing seen with
  | nil => exact .pure
  | cons m ms ih =>
      have hseen : Scope.mapSpans g (seen ++ [m.node.name]) =
          seen.mapSpans g ++ [m.node.name.respan g] := List.map_append
      have hrest := ih (seen ++ [m.node.name])
      rw [hseen] at hrest
      have hfind : (seen.mapSpans g).find? (m.mapSpans MethodDecl.mapSpans g).node.name.node =
          (seen.find? m.node.name.node).map g := Scope.find?_mapSpans g seen m.node.name.node
      rw [List.map_cons, checkMethods, checkMethods, hfind]
      cases seen.find? m.node.name.node with
      | some first => exact (Follows.throw _).bind hrest
      | none => exact (m.node.check_follows g).bind hrest

theorem check_follows (c : ClassDecl) : Follows g c.check (c.mapSpans g).check :=
  ((checkFields_follows g c.fields).bind
    (checkMethods_follows g c.name.node c.methods [])).withScope.inClass c.name.node

end ClassDecl

theorem MainClass.check_follows (c : MainClass) : Follows g c.check (c.mapSpans g).check :=
  ((Follows.declare [c.args]).bind (c.body.node.check_follows g)).withScope

/-! ## The errors of a program -/

namespace Program

theorem duplicateNames_mapSpans (ids : List Ident) (seen : Scope) :
    duplicateNames (seen.mapSpans g) (ids.map (·.respan g)) =
      (duplicateNames seen ids).map (DeclarationError.mapSpans g) := by
  induction ids generalizing seen with
  | nil => rfl
  | cons id ids ih =>
      have hfind : (seen.mapSpans g).find? (id.respan g).node = (seen.find? id.node).map g :=
        Scope.find?_mapSpans g seen id.node
      have hseen : Scope.mapSpans g (seen ++ [id]) = seen.mapSpans g ++ [id.respan g] :=
        List.map_append
      rw [List.map_cons, duplicateNames, duplicateNames, hfind, ← hseen, ih seen,
        ih (seen ++ [id])]
      cases seen.find? id.node with
      | some first => rfl
      | none => rfl

theorem duplicateClassNames_mapSpans (p : Program) :
    (p.mapSpans g).duplicateClassNames =
      p.duplicateClassNames.map (DeclarationError.mapSpans g) := by
  have hnames : (p.mapSpans g).classNames = p.classNames.map (·.respan g) := by
    rw [classNames, classNames, mapSpans, List.map_map, List.map_cons, List.map_map]
    rfl
  rw [duplicateClassNames, hnames]
  exact duplicateNames_mapSpans g p.classNames []

theorem checkAll_mapSpans (p : Program) (s s' : Session) :
    ((p.mapSpans g).checkAll s).1 = (p.checkAll s').1.map (DeclarationError.mapSpans g) := by
  have hmain := (p.mainClass.node.check_follows g).verdict_eq
  have hclass (c : Located ClassDecl) := (c.node.check_follows g).verdict_eq
  rw [checkAll_fst, checkAll_fst, duplicateClassNames_mapSpans, List.map_append, List.map_append,
    List.map_flatMap, mapSpans, List.flatMap_map]
  simp only [Located.mapSpans, hmain, hclass, Option.toList_map]

end Program

end MiniJava
