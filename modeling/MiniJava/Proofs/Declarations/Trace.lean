import Mathlib.Data.List.TakeWhile
import MiniJava.Proofs.Declarations.Recovery
import MiniJava.Proofs.Tally.Declarations

/-!
The events of a check. A check of a program reports its start; then, for the main class and for each
class, what it declares, in source order and up to the first declaration that it rejects; and last
how many errors it found, if any.
-/
namespace MiniJava

namespace Site

/-- What is reported when the declaration is accepted; classes are accepted without a word. -/
def event? (site : Site) : Option Event :=
  match site.kind with
  | .classDecl => none
  | .method className => some (.checkingMethod (some className) site.ident.node)
  | .variable => some (.declared site.ident.node)

/-- The declarations before the first that repeats an earlier one of its scope. -/
def accepted (sites : List Site) : List Site := sites.takeWhile fun site => !site.Repeats

/-- The first declaration that repeats an earlier one of its scope. -/
def rejected? (sites : List Site) : Option Site := sites.find? fun site => site.Repeats

theorem eq_accepted_append (sites : List Site) :
    ∃ rest, sites = accepted sites ++ (rejected? sites).toList ++ rest := by
  induction sites with
  | nil => exact ⟨[], rfl⟩
  | cons site sites ih =>
      by_cases h : site.Repeats
      · refine ⟨sites, ?_⟩
        rw [accepted, rejected?, List.takeWhile_cons_of_neg (by simpa using h),
          List.find?_cons_of_pos (by simpa using h)]
        rfl
      · obtain ⟨rest, hrest⟩ := ih
        refine ⟨rest, ?_⟩
        rw [accepted, rejected?, List.takeWhile_cons_of_pos (by simpa using h),
          List.find?_cons_of_neg (by simpa using h)]
        exact congrArg (site :: ·) hrest

theorem repeats_iff (site : Site) :
    site.Repeats ↔ (Scope.find? site.earlier site.ident.node).isSome := by
  rw [← decide_eq_true_iff (p := site.Repeats), ← isSome_error?, error?_eq_map, Option.isSome_map]

theorem firstError?_eq_rejected? (sites : List Site) :
    firstError? sites = (rejected? sites).bind error? := by
  induction sites with
  | nil => rfl
  | cons site sites ih =>
      rw [firstError?_cons, ih, rejected?, rejected?, List.find?_cons, ← isSome_error?]
      cases h : site.error? with
      | none => rfl
      | some e => exact h.symm

/-- The events of the declarations that a check accepts before it ends. -/
def trace (sites : List Site) : List Event := (accepted sites).filterMap event?

theorem trace_cons_of_repeats {site : Site} (h : site.Repeats) (sites : List Site) :
    trace (site :: sites) = [] := by
  rw [trace, accepted, List.takeWhile_cons_of_neg (by simpa using h), List.filterMap_nil]

theorem trace_cons {site : Site} (h : ¬site.Repeats) (sites : List Site) :
    trace (site :: sites) = site.event?.toList ++ trace sites := by
  rw [trace, accepted, List.takeWhile_cons_of_pos (by simpa using h), List.filterMap_cons, trace,
    accepted]
  cases site.event? <;> rfl

theorem trace_cons_of_seen (site : Site) {first : Span}
    (h : Scope.find? site.earlier site.ident.node = some first) (sites : List Site) :
    trace (site :: sites) = [] :=
  trace_cons_of_repeats (site.repeats_iff.mpr (by rw [h]; rfl)) sites

theorem trace_cons_of_fresh (site : Site) (h : Scope.find? site.earlier site.ident.node = none)
    (sites : List Site) : trace (site :: sites) = site.event?.toList ++ trace sites :=
  trace_cons (fun hrepeats => by simpa [h] using site.repeats_iff.mp hrepeats) sites

theorem trace_of_accepted {sites : List Site} (h : firstError? sites = none) :
    trace sites = sites.filterMap event? := by
  rw [trace, accepted, List.takeWhile_eq_self_iff.mpr]
  simpa using firstError?_eq_none_iff.mp h

/-- What comes after a declaration that is rejected is not reported. -/
theorem trace_append (sites sites' : List Site) :
    trace (sites ++ sites') =
      trace sites ++ if (firstError? sites).isSome then [] else trace sites' := by
  induction sites with
  | nil => rfl
  | cons site sites ih =>
      rw [List.cons_append, firstError?_cons]
      by_cases h : site.Repeats
      · have herror : site.error?.isSome := by rw [isSome_error?]; exact decide_eq_true h
        rw [trace_cons_of_repeats h, trace_cons_of_repeats h, Option.isSome_or, herror]
        rfl
      · rw [trace_cons h, trace_cons h, ih, error?_eq_none_iff.mpr h, Option.none_or,
          List.append_assoc]

end Site

open Site

/-! ## The events of a check in a scope -/

namespace CheckM

theorem trace_withScope (check : CheckM Unit) (s : Session) :
    (after (withScope check) s).trace =
      (check.after { s with checker.scopes := [] :: s.checker.scopes }).trace := by
  unfold after attempt withScope
  dsimp only
  cases check _ <;> rfl

theorem trace_inClass (name : String) (check : CheckM Unit) (s : Session) :
    (after (inClass name check) s).trace =
      (check.after { s with checker.currentClass := some name }).trace := by
  unfold after attempt inClass
  dsimp only
  cases check _ <;> rfl

/-- In a scope, the check answers the first error of the declarations given, reports those before
that error, and stays in the class that it is in. -/
structure Traces (own : List Ident) (sites : List Ident → List Site) (check : CheckM Unit) : Prop
    extends Reports own sites check where
  trace : ∀ {s : Session} {scope : Scope} {outer : List Scope}, s.checker.scopes = scope :: outer →
    (check.after s).trace.toList = s.trace.toList ++ Site.trace (sites scope)
  currentClass : ∀ {s : Session} {scope : Scope} {outer : List Scope},
    s.checker.scopes = scope :: outer →
    (check.after s).checker.currentClass = s.checker.currentClass

namespace Traces

variable {own own' : List Ident} {sites sites' : List Ident → List Site} {check next : CheckM Unit}

theorem pure : Traces [] (fun _ => []) (pure ()) where
  toReports := .pure
  trace := fun _ => (List.append_nil _).symm
  currentClass := fun _ => rfl

theorem bind (h : Traces own sites check) (h' : Traces own' sites' next) :
    Traces (own ++ own') (fun earlier => sites earlier ++ sites' (earlier ++ own))
      (check >>= fun _ => next) where
  toReports := h.toReports.bind h'.toReports
  trace := fun {s scope outer} hs => by
    rw [after_bind, trace_append, ← h.verdict hs, ← List.append_assoc, ← h.trace hs]
    cases hn : check.verdict s with
    | some e => exact (List.append_nil _).symm
    | none => exact h'.trace (h.scopes hs hn)
  currentClass := fun {s scope outer} hs => by
    rw [after_bind]
    cases hn : check.verdict s with
    | some e => exact h.currentClass hs
    | none => exact (h'.currentClass (h.scopes hs hn)).trans (h.currentClass hs)

theorem trace_withScope (h : Traces own sites check) (s : Session) :
    ((CheckM.withScope check).after s).trace.toList = s.trace.toList ++ Site.trace (sites []) := by
  rw [CheckM.trace_withScope]
  exact h.trace rfl

theorem currentClass_withScope (h : Traces own sites check) (s : Session) :
    ((CheckM.withScope check).after s).checker.currentClass = s.checker.currentClass := by
  rw [after_withScope]
  exact h.currentClass rfl

theorem withScope (h : Traces own sites check) (hc : Confined own check) :
    Traces [] (fun _ => sites []) (CheckM.withScope check) where
  toReports := h.toReports.withScope hc
  trace := fun {s _ _} _ => h.trace_withScope s
  currentClass := fun {s _ _} _ => h.currentClass_withScope s

theorem declareIn (id : Ident) :
    Traces [id] (fun earlier => [⟨.variable, earlier, id⟩]) (declareIn id) where
  toReports := .declareIn id
  trace := fun {s scope outer} hs => by
    cases hf : scope.find? id.node with
    | some first =>
        rw [trace_cons_of_seen ⟨.variable, scope, id⟩ hf, List.append_nil]
        simp only [after, attempt, declareIn_seen hs hf]
    | none =>
        rw [trace_cons_of_fresh ⟨.variable, scope, id⟩ hf]
        simp only [after, attempt, declareIn_fresh hs hf, Array.toList_push]
        rfl
  currentClass := fun {s scope outer} hs => by
    cases hf : scope.find? id.node with
    | some first => simp only [after, attempt, declareIn_seen hs hf]
    | none => simp only [after, attempt, declareIn_fresh hs hf]

theorem declareAll (ids : List Ident) :
    Traces ids (ofIdents .variable · ids) (declareAll ids) := by
  induction ids with
  | nil => exact pure
  | cons id ids ih => exact (declareIn id).bind ih

theorem declare (ids : List Ident) : Traces ids (ofIdents .variable · ids) (declare ids) where
  toReports := .declare ids
  trace := fun {s scope outer} hs => by
    rw [after, attempt_declare_cons ids hs]
    exact (declareAll ids).trace hs
  currentClass := fun {s scope outer} hs => by
    rw [after, attempt_declare_cons ids hs]
    exact (declareAll ids).currentClass hs

end Traces

end CheckM

open CheckM

namespace Stmt

mutual

theorem check_traces : (s : Stmt) → Traces s.declared s.sites s.check
  | .block body => by
      rw [check, declared]
      exact (checkList_traces body).withScope (checkList_confined body)
  | .ifThen _ ⟨t, _⟩ => by rw [check, declared]; exact check_traces t
  | .ifElse _ ⟨t, _⟩ ⟨e, _⟩ => by
      rw [check, declared]
      exact (check_traces t).bind (check_traces e)
  | .loop _ ⟨body, _⟩ => by rw [check, declared]; exact check_traces body
  | .varDecl decl => by rw [check, declared]; exact .declare decl.idents
  | .print _ => by rw [check, declared]; exact .pure
  | .assign _ _ => by rw [check, declared]; exact .pure
  | .arrayAssign _ _ _ => by rw [check, declared]; exact .pure

theorem checkList_traces : (ss : List (Located Stmt)) →
    Traces (declaredList ss) (sitesList · ss) (checkList ss)
  | [] => by rw [checkList]; exact .pure
  | ⟨s, _⟩ :: ss => by rw [checkList]; exact (check_traces s).bind (checkList_traces ss)

end

end Stmt

/-! ## The events of methods and classes -/

namespace MethodDecl

theorem checkFormals_traces (fs : List (Located Formal)) :
    Traces (fs.map (·.node.name)) (ofIdents .variable · (fs.map (·.node.name)))
      (checkFormals fs) := by
  induction fs with
  | nil => exact .pure
  | cons f fs ih => exact (Traces.declare [f.node.name]).bind ih

theorem checkScope_traces (m : MethodDecl) :
    Traces (m.formals.map (·.node.name) ++ Stmt.declaredList m.body) (fun earlier =>
        ofIdents .variable earlier (m.formals.map (·.node.name)) ++
          Stmt.sitesList (earlier ++ m.formals.map (·.node.name)) m.body)
      (do checkFormals m.formals; Stmt.checkList m.body) :=
  (checkFormals_traces m.formals).bind (Stmt.checkList_traces m.body)

/-- The event of the method comes first, with the class that the checker is in. -/
theorem trace_check (m : MethodDecl) (s : Session) :
    (m.check.after s).trace.toList =
      s.trace.toList ++ .checkingMethod s.checker.currentClass m.name.node :: trace m.sites := by
  have hscope := m.checkScope_traces.trace_withScope
    { s with trace := s.trace.push (.checkingMethod s.checker.currentClass m.name.node) }
  rw [Array.toList_push, List.append_assoc] at hscope
  exact hscope

theorem currentClass_check (m : MethodDecl) (s : Session) :
    (m.check.after s).checker.currentClass = s.checker.currentClass :=
  m.checkScope_traces.currentClass_withScope
    { s with trace := s.trace.push (.checkingMethod s.checker.currentClass m.name.node) }

end MethodDecl

namespace ClassDecl

theorem checkFields_traces (ds : List (Located VarDecl)) :
    Traces (ds.flatMap (·.node.idents)) (ofIdents .variable · (ds.flatMap (·.node.idents)))
      (checkFields ds) := by
  induction ds with
  | nil => exact .pure
  | cons d ds ih =>
      rw [List.flatMap_cons]
      simp only [ofIdents_append]
      exact (Traces.declare d.node.idents).bind ih

/-- A method whose name is repeated is not gone into. -/
theorem trace_checkMethods {className : String} (ms : List (Located MethodDecl)) (seen : Scope)
    {s : Session} (hs : s.checker.currentClass = some className) :
    ((checkMethods className seen ms).after s).trace.toList =
      s.trace.toList ++ trace (methodSites className seen ms) := by
  induction ms generalizing seen s with
  | nil => exact (List.append_nil _).symm
  | cons m ms ih =>
      rw [checkMethods, methodSites]
      cases hf : seen.find? m.node.name.node with
      | some first =>
          rw [trace_cons_of_seen ⟨.method className, seen, m.node.name⟩ hf, List.append_nil]
          rfl
      | none =>
          have hmethod : (m.node.check.after s).trace.toList = s.trace.toList ++
              .checkingMethod (some className) m.node.name.node :: trace m.node.sites := by
            rw [m.node.trace_check, hs]
          rw [trace_cons_of_fresh ⟨.method className, seen, m.node.name⟩ hf, trace_append,
            ← List.append_assoc, ← List.append_assoc, after_bind,
            m.node.verdict_check_eq_firstError?]
          cases firstError? m.node.sites with
          | some e => simpa [event?] using hmethod
          | none =>
              have hclass := (m.node.currentClass_check s).trans hs
              simpa [event?, hmethod] using ih (seen ++ [m.node.name]) hclass

/-- A class reports its declarations in source order, up to the first that it rejects. -/
theorem trace_check (c : ClassDecl) (s : Session) :
    (c.check.after s).trace.toList = s.trace.toList ++ trace c.sites := by
  let opened : Session :=
    { s with checker := { scopes := [] :: s.checker.scopes, currentClass := some c.name.node } }
  have hfields := checkFields_traces c.fields
  have hopened : opened.checker.scopes = [] :: s.checker.scopes := rfl
  have hclass := (hfields.currentClass hopened).trans rfl
  have htrace : ((checkFields c.fields).after opened).trace.toList =
      s.trace.toList ++ trace (ofIdents .variable [] (c.fields.flatMap (·.node.idents))) :=
    hfields.trace hopened
  rw [check, trace_inClass, CheckM.trace_withScope, sites, trace_append, ← List.append_assoc,
    ← htrace, after_bind, hfields.verdict hopened]
  cases firstError? (ofIdents .variable [] (c.fields.flatMap (·.node.idents))) with
  | some e => exact (List.append_nil _).symm
  | none => exact trace_checkMethods c.methods [] hclass

end ClassDecl

theorem MainClass.trace_check (c : MainClass) (s : Session) :
    (c.check.after s).trace.toList = s.trace.toList ++ trace c.sites :=
  ((Traces.declare [c.args]).bind c.body.node.check_traces).trace_withScope s

/-! ## Events in source order -/

/-- The names are declared one after the other. -/
def declarations (names : List String) : List Event := names.map .declared

theorem Site.ofIdents_events (ids earlier : List Ident) :
    (ofIdents .variable earlier ids).filterMap event? = declarations (ids.map Located.node) := by
  induction ids generalizing earlier with
  | nil => rfl
  | cons id ids ih => rw [ofIdents, List.filterMap_cons, ih]; rfl

theorem declarations_append (names names' : List String) :
    declarations (names ++ names') = declarations names ++ declarations names' := List.map_append

namespace Stmt

mutual

theorem sites_events (earlier : List Ident) : (s : Stmt) →
    (s.sites earlier).filterMap event? = declarations (s.varDecls.flatMap VarDecl.names)
  | .block body => sitesList_events [] body
  | .ifThen _ ⟨t, _⟩ => sites_events earlier t
  | .ifElse _ ⟨t, _⟩ ⟨e, _⟩ => by
      rw [sites, varDecls, List.filterMap_append, List.flatMap_append, declarations_append,
        sites_events earlier t, sites_events (earlier ++ t.declared) e]
  | .loop _ ⟨body, _⟩ => sites_events earlier body
  | .varDecl decl => by
      rw [sites, varDecls, ofIdents_events, List.flatMap_singleton]
      rfl
  | .print _ | .assign _ _ | .arrayAssign _ _ _ => rfl

theorem sitesList_events (earlier : List Ident) : (ss : List (Located Stmt)) →
    (sitesList earlier ss).filterMap event? =
      declarations ((varDeclsList ss).flatMap VarDecl.names)
  | [] => rfl
  | ⟨s, _⟩ :: ss => by
      rw [sitesList, varDeclsList, List.filterMap_append, List.flatMap_append,
        declarations_append, sites_events earlier s, sitesList_events (earlier ++ s.declared) ss]

end

end Stmt

/-- The event of the method, then its formals and the locals at any depth of its body. -/
def MethodDecl.events (className : String) (m : MethodDecl) : List Event :=
  .checkingMethod (some className) m.name.node ::
    declarations (m.formals.map (·.node.name.node) ++
      (Stmt.varDeclsList m.body).flatMap VarDecl.names)

/-- The fields, then the methods one after the other. -/
def ClassDecl.events (c : ClassDecl) : List Event :=
  declarations (c.fields.flatMap (·.node.names)) ++
    c.methods.flatMap (·.node.events c.name.node)

/-- The argument, then the locals at any depth of the body. -/
def MainClass.events (c : MainClass) : List Event :=
  declarations (c.args.node :: c.body.node.varDecls.flatMap VarDecl.names)

theorem MethodDecl.sites_events (m : MethodDecl) (className : String) (earlier : List Ident) :
    (⟨.method className, earlier, m.name⟩ :: m.sites).filterMap event? = m.events className := by
  rw [List.filterMap_cons, sites, List.filterMap_append, ofIdents_events, Stmt.sitesList_events,
    events, declarations_append, List.map_map]
  rfl

theorem ClassDecl.methodSites_events (className : String) (ms : List (Located MethodDecl))
    (earlier : List Ident) :
    (methodSites className earlier ms).filterMap event? = ms.flatMap (·.node.events className) := by
  induction ms generalizing earlier with
  | nil => rfl
  | cons m ms ih =>
      rw [methodSites, ← List.cons_append, List.filterMap_append, ih, List.flatMap_cons,
        MethodDecl.sites_events]

theorem ClassDecl.sites_events (c : ClassDecl) : c.sites.filterMap event? = c.events := by
  rw [sites, List.filterMap_append, ofIdents_events, methodSites_events, events, List.map_flatMap]
  rfl

theorem MainClass.sites_events (c : MainClass) : c.sites.filterMap event? = c.events := by
  rw [sites, List.filterMap_append, ofIdents_events, Stmt.sites_events, ← declarations_append]
  rfl

/-! ## Counting names -/

def Event.isDeclared : Event → Bool
  | .declared _ => true
  | _ => false

theorem countP_declarations (names : List String) :
    (declarations names).countP Event.isDeclared = names.length := by
  rw [declarations, List.countP_map]
  exact List.countP_eq_length.mpr fun _ _ => rfl

/-- What is counted in the lists of some things is counted in two ways if it is in each of them. -/
theorem countP_flatMap {α β γ δ : Type} {p : β → Bool} {f : α → List β} {g : α → List γ}
    {h : α → List δ} (heach : ∀ a, (f a).countP p = (g a).length + (h a).length) (as : List α) :
    (as.flatMap f).countP p = (as.flatMap g).length + (as.flatMap h).length := by
  induction as with
  | nil => rfl
  | cons a as ih =>
      simp only [List.flatMap_cons, List.countP_append, List.length_append, heach, ih]
      omega

theorem MethodDecl.countP_events (className : String) (m : MethodDecl) :
    (m.events className).countP Event.isDeclared =
      m.formals.length + ((Stmt.varDeclsList m.body).flatMap VarDecl.names).length := by
  rw [events, List.countP_cons_of_neg (by simp [Event.isDeclared]), countP_declarations,
    List.length_append, List.length_map]

theorem ClassDecl.countP_events (c : ClassDecl) :
    c.events.countP Event.isDeclared = (c.methods.flatMap (·.node.formals)).length +
      (c.varDecls.flatMap VarDecl.names).length := by
  have hmethods := countP_flatMap (fun m : Located MethodDecl =>
    m.node.countP_events c.name.node) c.methods
  rw [events, varDecls, List.countP_append, countP_declarations, hmethods, List.flatMap_append,
    List.length_append, List.flatMap_map, List.flatMap_assoc]
  omega

theorem MainClass.countP_events (c : MainClass) :
    c.events.countP Event.isDeclared =
      1 + (c.body.node.varDecls.flatMap VarDecl.names).length := by
  rw [events, countP_declarations, List.length_cons, Nat.add_comm]

namespace Program

/-- The formals of all methods, in source order. -/
def formals (p : Program) : List (Located Formal) :=
  p.classes.flatMap fun c => c.node.methods.flatMap (·.node.formals)

theorem map_parts_events (p : Program) :
    p.parts.map (·.filterMap event?) =
      p.mainClass.node.events :: p.classes.map (·.node.events) := by
  rw [parts, List.map_cons, List.map_map, MainClass.sites_events]
  congr 1
  exact List.map_congr_left fun c _ => c.node.sites_events

theorem trace_classErrors (cs : List (Located ClassDecl)) (s : Session) :
    (classErrors cs s).2.trace.toList =
      s.trace.toList ++ cs.flatMap fun c => trace c.node.sites := by
  induction cs generalizing s with
  | nil => exact (List.append_nil _).symm
  | cons c cs ih =>
      show (classErrors cs (c.node.check.after s)).2.trace.toList = _
      rw [ih, c.node.trace_check, List.flatMap_cons, List.append_assoc]

theorem trace_checkAll (p : Program) (s : Session) :
    (p.checkAll s).2.trace.toList =
      s.trace.toList ++ .checkingProgram p.classes.length ::
        (p.parts.flatMap trace ++
          if (p.checkAll s).1.isEmpty then [] else [.duplicatesFound (p.checkAll s).1.length]) := by
  let started : Session :=
    { checker := {}, trace := s.trace.push (.checkingProgram p.classes.length) }
  have hclasses : (classErrors p.classes (p.mainClass.node.check.after started)).2.trace.toList =
      s.trace.toList ++ .checkingProgram p.classes.length :: p.parts.flatMap trace := by
    rw [trace_classErrors, p.mainClass.node.trace_check, parts, List.flatMap_cons,
      List.flatMap_map, Array.toList_push]
    simp only [List.append_assoc, List.cons_append, List.nil_append]
  rw [checkAll_eq]
  dsimp only
  split
  · rw [hclasses, List.append_nil]
  · rw [Array.toList_push, hclasses, List.append_assoc, List.cons_append]

/-- The errors of the class names, then that of the declaration that each class rejects, if any. -/
theorem checkAll_eq_rejected (p : Program) (s : Session) :
    (p.checkAll s).1 = p.duplicateClassNames ++
      p.parts.flatMap fun sites => ((rejected? sites).bind error?).toList := by
  rw [checkAll_fst, MainClass.verdict_check_eq_firstError?, parts, List.flatMap_cons,
    List.flatMap_map, List.append_assoc]
  simp only [ClassDecl.verdict_check_eq_firstError?, firstError?_eq_rejected?]

/-- Besides the argument of the main class and the formals, the names of a program are those that a
tally counts. -/
theorem countP_events (p : Located Program) :
    (p.node.mainClass.node.events ++ p.node.classes.flatMap (·.node.events)).countP
        Event.isDeclared = 1 + p.node.formals.length + (Node.program p).tally.names := by
  have hnames : (Node.program p).tally.names =
      (p.node.varDecls.flatMap VarDecl.names).length := by
    rw [Tally.tally_eq, List.length_flatMap]
    rfl
  have hclasses := countP_flatMap (fun c : Located ClassDecl => c.node.countP_events) p.node.classes
  rw [hnames, Program.varDecls, List.countP_append, MainClass.countP_events, hclasses,
    List.flatMap_append, List.length_append, List.flatMap_assoc, formals]
  omega

/-- In a program that passes, no declaration is rejected. -/
theorem flatMap_trace_of_accepted (p : Program) {s : Session} (h : (p.checkAll s).1 = []) :
    p.parts.flatMap trace =
      p.mainClass.node.events ++ p.classes.flatMap (·.node.events) := by
  rw [checkAll_eq_rejected, List.append_eq_nil_iff, List.flatMap_eq_nil_iff] at h
  have hparts : ∀ sites ∈ p.parts, trace sites = sites.filterMap event? := fun sites hsites =>
    trace_of_accepted (by
      rw [firstError?_eq_rejected?]
      exact Option.toList_eq_nil_iff.mp (h.2 sites hsites))
  rw [List.flatMap_congr hparts, List.flatMap_def, map_parts_events, List.flatten_cons,
    List.flatMap_def]

/-- The trace of a check lists what is declared, in source order. After the start of the check come
the events of the main class and of each class, which are those of its declarations in source order
up to the first that repeats an earlier one of its scope, the one that its error is about; and then,
if and only if there are errors, how many. If there are none, one name is declared for the argument
of the main class, one for each formal, and one for each name that a tally of the program counts. -/
theorem trace_in_source_order (p : Located Program) (s : Session) :
    let errors := (p.node.checkAll s).1
    let trace := (p.node.checkAll s).2.trace.toList
    trace = s.trace.toList ++ .checkingProgram p.node.classes.length ::
      ((p.node.parts.flatMap fun sites => (accepted sites).filterMap event?) ++
        if errors.isEmpty then [] else [.duplicatesFound errors.length]) ∧
    errors = p.node.duplicateClassNames ++
      (p.node.parts.flatMap fun sites => ((rejected? sites).bind error?).toList) ∧
    (∀ sites ∈ p.node.parts,
      ∃ rest, sites = accepted sites ++ (rejected? sites).toList ++ rest) ∧
    p.node.parts.map (·.filterMap event?) =
      p.node.mainClass.node.events :: p.node.classes.map (·.node.events) ∧
    (errors = [] → trace.countP Event.isDeclared =
      s.trace.toList.countP Event.isDeclared +
        (1 + p.node.formals.length + (Node.program p).tally.names)) := by
  intro errors trace
  have htrace := p.node.trace_checkAll s
  refine ⟨htrace, p.node.checkAll_eq_rejected s, fun sites _ => eq_accepted_append sites,
    p.node.map_parts_events, fun hpass => ?_⟩
  have hevents := p.node.flatMap_trace_of_accepted hpass
  have hreport : (if (p.node.checkAll s).1.isEmpty then []
      else [.duplicatesFound (p.node.checkAll s).1.length] : List Event) = [] := by
    rw [show (p.node.checkAll s).1 = [] from hpass]
    rfl
  have hstart : ¬(Event.checkingProgram p.node.classes.length).isDeclared := Bool.false_ne_true
  rw [show trace = _ from htrace, hreport, List.append_nil, hevents, List.countP_append,
    List.countP_cons_of_neg hstart, countP_events]

/-- A class with two fields and a method with a formal and a local passes: with the argument of the
main class, five names are declared. -/
theorem trace_in_source_order_passing :
    let int : Located Ty := .nowhere .integer
    let decl (first : String) (rest : List Ident) : VarDecl := ⟨int, .nowhere first, rest⟩
    let main : MainClass := ⟨.nowhere "M", .nowhere "argv", .nowhere (.block [])⟩
    let m : MethodDecl := ⟨int, .nowhere "f", [.nowhere ⟨int, .nowhere "n"⟩],
      [.nowhere (.block [.nowhere (.varDecl (decl "v" []))])], .nowhere .this⟩
    let a : ClassDecl :=
      ⟨.nowhere "A", none, [.nowhere (decl "x" [.nowhere "y"])], [.nowhere m]⟩
    let p : Located Program := .nowhere ⟨.nowhere main, [.nowhere a]⟩
    (∃ rest, main.sites = accepted main.sites ++ (rejected? main.sites).toList ++ rest) ∧
    (p.node.checkAll {}).1 = [] ∧
    (p.node.checkAll {}).2.trace.toList.countP Event.isDeclared = 5 := by
  intro int decl main m a p
  have htrace := trace_in_source_order p {}
  have hmain : main.sites ∈ p.node.parts := List.mem_cons_self
  have hpass : (p.node.checkAll {}).1 = [] := by decide
  have hnames : (Node.program p).tally.names = 3 := rfl
  refine ⟨htrace.2.2.1 main.sites hmain, hpass, ?_⟩
  rw [htrace.2.2.2.2 hpass, hnames]
  rfl

end Program

end MiniJava
