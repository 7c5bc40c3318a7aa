import MiniJava.Proofs.Declarations.Reuse

/-!
The declarations of a tree in source order, each with those before it in its scope. A check goes
through them in this order and ends at the first whose name is declared before it; what it answers
can be read off the list without the check running.
-/
namespace MiniJava

/-- Where the name of a declaration must be unique. -/
inductive SiteKind where
  | classDecl
  | method (className : String)
  | variable

/-- A declaration where it stands: its identifier, and those declared before it in its scope. -/
structure Site where
  kind : SiteKind
  earlier : List Ident
  ident : Ident

namespace Site

/-- The error at a declaration whose name is declared before it; it cites the first of that name. -/
def error? (site : Site) : Option DeclarationError :=
  (Scope.find? site.earlier site.ident.node).map fun first =>
    match site.kind with
    | .classDecl => .duplicateClass site.ident.node first site.ident.span
    | .method className => .duplicateMethod className site.ident.node first site.ident.span
    | .variable => .duplicateVariable site.ident.node first site.ident.span

/-- Declarations of one scope, one after the other. -/
def ofIdents (kind : SiteKind) (earlier : List Ident) : List Ident → List Site
  | [] => []
  | id :: ids => ⟨kind, earlier, id⟩ :: ofIdents kind (earlier ++ [id]) ids

theorem ofIdents_append (kind : SiteKind) (ids ids' earlier : List Ident) :
    ofIdents kind earlier (ids ++ ids') =
      ofIdents kind earlier ids ++ ofIdents kind (earlier ++ ids) ids' := by
  induction ids generalizing earlier with
  | nil => rw [List.nil_append, ofIdents, List.nil_append, List.append_nil]
  | cons id ids ih =>
      rw [List.cons_append, ofIdents, ofIdents, ih, List.append_assoc, List.cons_append]
      rfl

/-- What a check answers that goes through the declarations in this order. -/
def firstError? (sites : List Site) : Option DeclarationError := sites.findSome? error?

theorem firstError?_append (sites sites' : List Site) :
    firstError? (sites ++ sites') = (firstError? sites).or (firstError? sites') :=
  List.findSome?_append

theorem firstError?_cons (site : Site) (sites : List Site) :
    firstError? (site :: sites) = site.error?.or (firstError? sites) := by
  rw [firstError?, List.findSome?_cons, firstError?]
  cases site.error? <;> rfl

end Site

theorem Scope.find?_eq_none_iff {scope : Scope} {name : String} :
    scope.find? name = none ↔ name ∉ scope.map Located.node := by
  simp only [Scope.find?, Option.map_eq_none_iff, List.find?_eq_none, beq_iff_eq, List.mem_map,
    not_exists, not_and]

theorem Scope.find?_append (scope scope' : Scope) (name : String) :
    Scope.find? (scope ++ scope') name = (scope.find? name).or (scope'.find? name) := by
  rw [find?, List.find?_append, Option.map_or, find?, find?]

/-- A repeated identifier is found where the first of its name is. -/
theorem Scope.find?_append_of_seen {scope : Scope} {id : Ident} {first : Span}
    (h : scope.find? id.node = some first) (name : String) :
    Scope.find? (scope ++ [id]) name = scope.find? name := by
  rw [find?_append]
  by_cases hname : id.node = name
  · rw [← hname, h, Option.some_or]
  · have hnone : Scope.find? [id] name = none := by
      rw [find?_eq_none_iff, List.map_singleton, List.mem_singleton]
      exact fun h => hname h.symm
    rw [hnone, Option.or_none]

/-! ## Source order -/

namespace Stmt

mutual

/-- The declarations in the statement, in a scope with those before it. -/
def sites (earlier : List Ident) : Stmt → List Site
  | .block body => sitesList [] body
  | .ifThen _ ⟨t, _⟩ => sites earlier t
  | .ifElse _ ⟨t, _⟩ ⟨e, _⟩ => sites earlier t ++ sites (earlier ++ t.declared) e
  | .loop _ ⟨body, _⟩ => sites earlier body
  | .varDecl decl => Site.ofIdents .variable earlier decl.idents
  | .print _ | .assign _ _ | .arrayAssign _ _ _ => []

def sitesList (earlier : List Ident) : List (Located Stmt) → List Site
  | [] => []
  | ⟨s, _⟩ :: ss => sites earlier s ++ sitesList (earlier ++ s.declared) ss

end

end Stmt

def MethodDecl.sites (m : MethodDecl) : List Site :=
  let formals := m.formals.map (·.node.name)
  Site.ofIdents .variable [] formals ++ Stmt.sitesList formals m.body

namespace ClassDecl

/-- The declarations of the methods, each name before what is in the method. -/
def methodSites (className : String) (earlier : List Ident) : List (Located MethodDecl) → List Site
  | [] => []
  | m :: ms =>
    ⟨.method className, earlier, m.node.name⟩ ::
      (m.node.sites ++ methodSites className (earlier ++ [m.node.name]) ms)

def sites (c : ClassDecl) : List Site :=
  Site.ofIdents .variable [] (c.fields.flatMap (·.node.idents)) ++
    methodSites c.name.node [] c.methods

end ClassDecl

def MainClass.sites (c : MainClass) : List Site :=
  Site.ofIdents .variable [] [c.args] ++ c.body.node.sites [c.args]

def Program.classSites (p : Program) : List Site := Site.ofIdents .classDecl [] p.classNames

/-! ## The same declarations scope by scope -/

namespace Site

/-- The variables of some scopes, one scope after the other. -/
def ofScopes (scopes : List (List Ident)) : List Site := scopes.flatMap (ofIdents .variable [])

theorem ofScopes_cons (scope : List Ident) (scopes : List (List Ident)) :
    ofScopes (scope :: scopes) = ofIdents .variable [] scope ++ ofScopes scopes :=
  List.flatMap_cons

theorem ofScopes_append (scopes scopes' : List (List Ident)) :
    ofScopes (scopes ++ scopes') = ofScopes scopes ++ ofScopes scopes' := List.flatMap_append

/-- What two nodes declare in the scope around them, then what is in the scopes inside them. -/
theorem perm_own_inside {sites sites' own own' inside inside' : List Site}
    (h : sites.Perm (own ++ inside)) (h' : sites'.Perm (own' ++ inside')) :
    (sites ++ sites').Perm ((own ++ own') ++ (inside ++ inside')) := by
  refine (h.append h').trans ?_
  rw [List.append_assoc, List.append_assoc]
  exact (List.perm_append_comm_assoc inside own' inside').append_left own

end Site

open Site

namespace Stmt

mutual

/-- Source order goes in and out of the blocks of a statement, but each declaration has before it
what its own scope declares and nothing else. -/
theorem sites_perm (earlier : List Ident) : (s : Stmt) →
    (s.sites earlier).Perm (ofIdents .variable earlier s.declared ++ ofScopes s.scopes)
  | .block body => sitesList_perm [] body
  | .ifThen _ ⟨t, _⟩ => sites_perm earlier t
  | .ifElse _ ⟨t, _⟩ ⟨e, _⟩ => by
      rw [sites, declared, scopes, ofIdents_append, ofScopes_append]
      exact perm_own_inside (sites_perm earlier t) (sites_perm (earlier ++ t.declared) e)
  | .loop _ ⟨body, _⟩ => sites_perm earlier body
  | .varDecl decl => by
      rw [sites, scopes]
      exact .of_eq (List.append_nil _).symm
  | .print _ | .assign _ _ | .arrayAssign _ _ _ => .refl []

theorem sitesList_perm (earlier : List Ident) : (ss : List (Located Stmt)) →
    (sitesList earlier ss).Perm
      (ofIdents .variable earlier (declaredList ss) ++ ofScopes (scopesList ss))
  | [] => .refl []
  | ⟨s, _⟩ :: ss => by
      rw [sitesList, declaredList, List.flatMap_cons, scopesList, ofIdents_append, ofScopes_append]
      exact perm_own_inside (sites_perm earlier s) (sitesList_perm (earlier ++ s.declared) ss)

end

end Stmt

theorem MethodDecl.sites_perm (m : MethodDecl) : m.sites.Perm (ofScopes m.scopes) := by
  have hbody := Stmt.sitesList_perm (m.formals.map (·.node.name)) m.body
  rw [scopes, ofScopes_cons, ofIdents_append, List.append_assoc]
  exact hbody.append_left _

namespace ClassDecl

theorem methodSites_perm (className : String) (ms : List (Located MethodDecl))
    (earlier : List Ident) :
    (methodSites className earlier ms).Perm
      (ofIdents (.method className) earlier (ms.map (·.node.name)) ++
        ofScopes (ms.flatMap (·.node.scopes))) := by
  induction ms generalizing earlier with
  | nil => exact .refl []
  | cons m ms ih =>
      rw [methodSites, List.map_cons, ofIdents, List.flatMap_cons, ofScopes_append, List.cons_append]
      refine .cons _ ((m.node.sites_perm.append (ih _)).trans ?_)
      exact List.perm_append_comm_assoc _ _ _

/-- The declarations in a class are its methods and the variables of its scopes. -/
theorem sites_perm (c : ClassDecl) :
    c.sites.Perm (ofIdents (.method c.name.node) [] c.methodNames ++ ofScopes c.scopes) := by
  refine ((methodSites_perm c.name.node c.methods []).append_left _).trans ?_
  rw [scopes, ofScopes_cons]
  exact List.perm_append_comm_assoc _ _ _

end ClassDecl

theorem MainClass.sites_perm (c : MainClass) : c.sites.Perm (ofScopes c.scopes) := by
  rw [scopes, ofScopes_cons]
  exact (c.body.node.sites_perm [c.args]).append_left _

/-! ## The identifiers of a declaration -/

/-- The declaration and those before it in its scope are all among some identifiers. -/
def Site.Within (ids : List Ident) (site : Site) : Prop :=
  site.ident ∈ ids ∧ site.earlier ⊆ ids

theorem Site.ofIdents_within {kind : SiteKind} {ids earlier all : List Ident}
    (h : earlier ++ ids ⊆ all) : ∀ site ∈ ofIdents kind earlier ids, site.Within all := by
  induction ids generalizing earlier with
  | nil => simp [ofIdents]
  | cons id ids ih =>
      rw [ofIdents, List.forall_mem_cons]
      refine ⟨⟨h (by simp), fun i hi => h (List.mem_append_left _ hi)⟩, ih ?_⟩
      rwa [List.append_assoc]

theorem Site.ofScopes_within {scopes : List (List Ident)} {all : List Ident}
    (h : scopes.flatten ⊆ all) : ∀ site ∈ ofScopes scopes, site.Within all := by
  intro site hsite
  obtain ⟨scope, hscope, hsite⟩ := List.mem_flatMap.mp hsite
  refine ofIdents_within ?_ site hsite
  exact fun i hi => h (List.mem_flatten.mpr ⟨scope, hscope, hi⟩)

theorem ClassDecl.sites_within {c : ClassDecl} {all : List Ident} (hn : c.methodNames ⊆ all)
    (hs : c.scopes.flatten ⊆ all) : ∀ site ∈ c.sites, site.Within all := by
  intro site hsite
  rcases List.mem_append.mp (c.sites_perm.mem_iff.mp hsite) with hmethod | hvariable
  · exact ofIdents_within hn site hmethod
  · exact ofScopes_within hs site hvariable

theorem MainClass.sites_within {c : MainClass} {all : List Ident} (h : c.scopes.flatten ⊆ all) :
    ∀ site ∈ c.sites, site.Within all := by
  intro site hsite
  exact ofScopes_within h site (c.sites_perm.mem_iff.mp hsite)

/-! ## What a check answers -/

namespace CheckM

/-- In a scope, the check declares `own` if it succeeds, and answers the first error of the
declarations given. -/
structure Reports (own : List Ident) (sites : List Ident → List Site) (check : CheckM Unit) :
    Prop where
  verdict : ∀ {s : Session} {scope : Scope} {outer : List Scope}, s.checker.scopes = scope :: outer →
    check.verdict s = firstError? (sites scope)
  scopes : ∀ {s : Session} {scope : Scope} {outer : List Scope}, s.checker.scopes = scope :: outer →
    check.verdict s = none → (check.after s).checker.scopes = (scope ++ own) :: outer

namespace Reports

variable {own own' : List Ident} {sites sites' : List Ident → List Site} {check next : CheckM Unit}

theorem pure : Reports [] (fun _ => []) (pure ()) where
  verdict := fun _ => rfl
  scopes := fun hs _ => by
    rw [List.append_nil]
    exact hs

theorem bind (h : Reports own sites check) (h' : Reports own' sites' next) :
    Reports (own ++ own') (fun earlier => sites earlier ++ sites' (earlier ++ own))
      (check >>= fun _ => next) where
  verdict := fun {s scope outer} hs => by
    rw [verdict_bind, firstError?_append, ← h.verdict hs]
    cases hn : check.verdict s with
    | some e => rfl
    | none => rw [h'.verdict (h.scopes hs hn)]
  scopes := fun {s scope outer} hs hn => by
    obtain ⟨hn, hn'⟩ := verdict_bind_eq_none.mp hn
    rw [after_bind_of_none hn, ← List.append_assoc]
    exact h'.scopes (h.scopes hs hn) hn'

theorem verdict_withScope (h : Reports own sites check) (s : Session) :
    (CheckM.withScope check).verdict s = firstError? (sites []) := by
  rw [CheckM.verdict_withScope]
  exact h.verdict rfl

theorem withScope (h : Reports own sites check) (hc : Confined own check) :
    Reports [] (fun _ => sites []) (CheckM.withScope check) where
  verdict := fun {s _ _} _ => h.verdict_withScope s
  scopes := fun {s _ _} hs _ => by
    rw [hc.scopes_withScope, List.append_nil, hs]

theorem declareIn (id : Ident) :
    Reports [id] (fun earlier => [⟨.variable, earlier, id⟩]) (declareIn id) where
  verdict := fun {s scope outer} hs => by
    rw [firstError?_cons, error?]
    cases hf : scope.find? id.node with
    | some first => simp only [CheckM.verdict, attempt, declareIn_seen hs hf]; rfl
    | none => simp only [CheckM.verdict, attempt, declareIn_fresh hs hf]; rfl
  scopes := fun {s scope outer} hs hn => by
    cases hf : scope.find? id.node with
    | some first => simp [CheckM.verdict, attempt, declareIn_seen hs hf] at hn
    | none => simp [after, attempt, declareIn_fresh hs hf]

theorem declareAll (ids : List Ident) :
    Reports ids (ofIdents .variable · ids) (declareAll ids) := by
  induction ids with
  | nil => exact pure
  | cons id ids ih => exact (declareIn id).bind ih

theorem declare (ids : List Ident) : Reports ids (ofIdents .variable · ids) (declare ids) where
  verdict := fun {s scope outer} hs => by
    rw [CheckM.verdict, attempt_declare_cons ids hs]
    exact (declareAll ids).verdict hs
  scopes := fun {s scope outer} hs hn => by
    rw [CheckM.verdict, attempt_declare_cons ids hs] at hn
    rw [after, attempt_declare_cons ids hs]
    exact (declareAll ids).scopes hs hn

end Reports

end CheckM

open CheckM

namespace Stmt

mutual

theorem check_reports : (s : Stmt) → Reports s.declared s.sites s.check
  | .block body => by
      rw [check, declared]
      exact (checkList_reports body).withScope (checkList_confined body)
  | .ifThen _ ⟨t, _⟩ => by rw [check, declared]; exact check_reports t
  | .ifElse _ ⟨t, _⟩ ⟨e, _⟩ => by
      rw [check, declared]
      exact (check_reports t).bind (check_reports e)
  | .loop _ ⟨body, _⟩ => by rw [check, declared]; exact check_reports body
  | .varDecl decl => by rw [check, declared]; exact .declare decl.idents
  | .print _ => by rw [check, declared]; exact .pure
  | .assign _ _ => by rw [check, declared]; exact .pure
  | .arrayAssign _ _ _ => by rw [check, declared]; exact .pure

theorem checkList_reports : (ss : List (Located Stmt)) →
    Reports (declaredList ss) (sitesList · ss) (checkList ss)
  | [] => by rw [checkList]; exact .pure
  | ⟨s, _⟩ :: ss => by rw [checkList]; exact (check_reports s).bind (checkList_reports ss)

end

end Stmt

namespace MethodDecl

theorem checkFormals_reports (fs : List (Located Formal)) :
    Reports (fs.map (·.node.name)) (ofIdents .variable · (fs.map (·.node.name)))
      (checkFormals fs) := by
  induction fs with
  | nil => exact .pure
  | cons f fs ih => exact (Reports.declare [f.node.name]).bind ih

theorem verdict_check_eq_firstError? (m : MethodDecl) (s : Session) :
    m.check.verdict s = firstError? m.sites :=
  ((checkFormals_reports m.formals).bind (Stmt.checkList_reports m.body)).verdict_withScope
    { s with trace := s.trace.push (.checkingMethod s.checker.currentClass m.name.node) }

end MethodDecl

namespace ClassDecl

theorem checkFields_reports (ds : List (Located VarDecl)) :
    Reports (ds.flatMap (·.node.idents)) (ofIdents .variable · (ds.flatMap (·.node.idents)))
      (checkFields ds) := by
  induction ds with
  | nil => exact .pure
  | cons d ds ih =>
      rw [List.flatMap_cons]
      simp only [ofIdents_append]
      exact (Reports.declare d.node.idents).bind ih

theorem verdict_checkMethods_eq_firstError? (className : String) (ms : List (Located MethodDecl))
    (seen : Scope) (s : Session) :
    (checkMethods className seen ms).verdict s = firstError? (methodSites className seen ms) := by
  induction ms generalizing seen s with
  | nil => rfl
  | cons m ms ih =>
      rw [checkMethods, methodSites, firstError?_cons, firstError?_append, error?]
      cases hf : seen.find? m.node.name.node with
      | some first => rfl
      | none => rw [verdict_bind, m.node.verdict_check_eq_firstError?, ih]; rfl

/-- A class is answered with the first error of its declarations in source order. -/
theorem verdict_check_eq_firstError? (c : ClassDecl) (s : Session) :
    c.check.verdict s = firstError? c.sites := by
  have hfields := checkFields_reports c.fields
  rw [check, verdict_inClass, CheckM.verdict_withScope, verdict_bind, hfields.verdict rfl,
    verdict_checkMethods_eq_firstError?, sites, firstError?_append]

end ClassDecl

theorem MainClass.verdict_check_eq_firstError? (c : MainClass) (s : Session) :
    c.check.verdict s = firstError? c.sites :=
  ((Reports.declare [c.args]).bind c.body.node.check_reports).verdict_withScope s

namespace Program

/-- The names seen so far leave out the repetitions, which no later declaration is said to repeat. -/
theorem duplicateNames_eq_filterMap (ids : List Ident) {seen : Scope} {earlier : List Ident}
    (h : ∀ name, seen.find? name = Scope.find? earlier name) :
    duplicateNames seen ids = (ofIdents .classDecl earlier ids).filterMap error? := by
  induction ids generalizing seen earlier with
  | nil => rfl
  | cons id ids ih =>
      rw [duplicateNames, ofIdents, List.filterMap_cons, error?, h]
      cases hf : Scope.find? earlier id.node with
      | some first =>
          have hsame : ∀ name, seen.find? name = Scope.find? (earlier ++ [id]) name := fun name => by
            rw [h, Scope.find?_append_of_seen hf]
          rw [ih hsame]
          rfl
      | none =>
          have hsame : ∀ name, Scope.find? (seen ++ [id]) name = Scope.find? (earlier ++ [id]) name :=
            fun name => by rw [Scope.find?_append, Scope.find?_append, h]
          rw [ih hsame]
          rfl

/-- The errors of a program: every repeated class name, then the first error of the main class and
of each class. -/
theorem checkAll_eq_sites (p : Program) (s : Session) :
    (p.checkAll s).1 = p.classSites.filterMap error? ++ (firstError? p.mainClass.node.sites).toList ++
      p.classes.flatMap fun c => (firstError? c.node.sites).toList := by
  rw [checkAll_fst, duplicateClassNames, duplicateNames_eq_filterMap _ fun _ => rfl,
    MainClass.verdict_check_eq_firstError?, classSites]
  simp only [ClassDecl.verdict_check_eq_firstError?]

end Program

end MiniJava
