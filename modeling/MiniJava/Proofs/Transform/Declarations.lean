import MiniJava.Proofs.Declarations.Renaming
import MiniJava.Proofs.Transform.Leaves
import MiniJava.Proofs.Transform.Traversals

/-!
A transformation that has a hook for declarations alone. It replaces the fields of the classes and
the declaration statements at any depth, each by what the hook makes of it, and leaves the rest of
the program as it is.
-/
namespace MiniJava

open Node MiniJava.Tree

/-- The transformation with no hook but that for declarations; what the hook gives for a declaration
is not transformed again. -/
def Transform.ofVarDecl (g : Located VarDecl → Located VarDecl) : Transform Id where
  varDecl d _ := g d

/-- Moving declarations is of this sort. -/
theorem Transform.relocate_eq (span : Span) :
    Transform.relocate span = Transform.ofVarDecl fun d => ⟨d.node, span⟩ := rfl

/-! ## Replaced declarations -/

namespace Stmt

mutual

/-- Replace the declarations of the statement, at any depth. A declaration statement has the span of
its declaration, before and after. -/
def mapDecls (g : Located VarDecl → Located VarDecl) (span : Span) : Stmt → Located Stmt
  | .block body => ⟨.block (mapDeclsList g body), span⟩
  | .ifThen c ⟨t, u⟩ => ⟨.ifThen c (mapDecls g u t), span⟩
  | .ifElse c ⟨t, u⟩ ⟨e, v⟩ => ⟨.ifElse c (mapDecls g u t) (mapDecls g v e), span⟩
  | .loop c ⟨body, u⟩ => ⟨.loop c (mapDecls g u body), span⟩
  | .varDecl decl => (g ⟨decl, span⟩).map .varDecl
  | .print value => ⟨.print value, span⟩
  | .assign target value => ⟨.assign target value, span⟩
  | .arrayAssign target index value => ⟨.arrayAssign target index value, span⟩

def mapDeclsList (g : Located VarDecl → Located VarDecl) : List (Located Stmt) → List (Located Stmt)
  | [] => []
  | ⟨s, span⟩ :: ss => mapDecls g span s :: mapDeclsList g ss

end

end Stmt

section Replaced

variable (g : Located VarDecl → Located VarDecl)

def MethodDecl.mapDecls (m : MethodDecl) : MethodDecl :=
  { m with body := Stmt.mapDeclsList g m.body }

def ClassDecl.mapDecls (c : ClassDecl) : ClassDecl :=
  { c with fields := c.fields.map g, methods := c.methods.map (·.map (MethodDecl.mapDecls g)) }

def MainClass.mapDecls (c : MainClass) : MainClass :=
  { c with body := Stmt.mapDecls g c.body.span c.body.node }

def Program.mapDecls (p : Program) : Program where
  mainClass := p.mainClass.map (MainClass.mapDecls g)
  classes := p.classes.map (·.map (ClassDecl.mapDecls g))

/-! ## The transformed program -/

/-- A node that an expression is made of. -/
def Node.InExpr (n : Node) : Prop := n.kind = .expr ∨ n.kind = .ident

theorem Node.InExpr.of_mem {n p : Node} (h : n.InExpr) (hp : p ∈ n.callParts) : p.InExpr := by
  cases n with
  | expr e =>
      have hall : ∀ p ∈ partsOfExpr e.node, p.InExpr := by
        cases e.node <;> simp [partsOfExpr, InExpr, kind]
      exact hall p hp
  | ident i => cases hp
  | _ => rcases h with h | h <;> cases h

namespace Transform

theorem onNode_ofVarDecl {n : Node} (h : n.InExpr) : (ofVarDecl g).onNode n = pure n := by
  refine onNode_eq_pure (fun n h _ hp => h.of_mem hp) (fun n h hrebuild => ?_) h
  cases n with
  | expr e =>
      obtain ⟨e, span⟩ := e
      rw [← hrebuild]
      simp [onNode, onExpr, rebuildNode, ofVarDecl]
  | ident i => rfl
  | _ => rcases h with h | h <;> cases h

theorem onExpr_ofVarDecl (e : Located Expr) : (ofVarDecl g).onExpr e = e :=
  Node.expr.inj (onNode_ofVarDecl g (n := .expr e) (.inl rfl))

mutual

/-- The hook is given a declaration statement as a declaration and makes the statement anew. -/
theorem rebuildStmt_ofVarDecl (span : Span) : (s : Stmt) →
    (ofVarDecl g).rebuildStmt span s = s.mapDecls g span
  | .block body => by
      rw [rebuildStmt, Stmt.mapDecls, onStmts_ofVarDecl body]
      rfl
  | .ifThen c ⟨t, u⟩ => by
      rw [rebuildStmt, Stmt.mapDecls, onStmt, rebuildStmt_ofVarDecl u t, onExpr_ofVarDecl]
      rfl
  | .ifElse c ⟨t, u⟩ ⟨e, v⟩ => by
      rw [rebuildStmt, Stmt.mapDecls, onStmt, onStmt, rebuildStmt_ofVarDecl u t,
        rebuildStmt_ofVarDecl v e, onExpr_ofVarDecl]
      rfl
  | .loop c ⟨body, u⟩ => by
      rw [rebuildStmt, Stmt.mapDecls, onStmt, rebuildStmt_ofVarDecl u body, onExpr_ofVarDecl]
      rfl
  | .print value => by rw [rebuildStmt, Stmt.mapDecls, onExpr_ofVarDecl]; rfl
  | .assign target value => by rw [rebuildStmt, Stmt.mapDecls, onExpr_ofVarDecl]; rfl
  | .arrayAssign target index value => by
      rw [rebuildStmt, Stmt.mapDecls, onExpr_ofVarDecl, onExpr_ofVarDecl]
      rfl
  | .varDecl _ => rfl

theorem onStmts_ofVarDecl : (ss : List (Located Stmt)) →
    (ofVarDecl g).onStmts ss = Stmt.mapDeclsList g ss
  | [] => rfl
  | ⟨s, span⟩ :: ss => congrArg₂ List.cons (rebuildStmt_ofVarDecl span s) (onStmts_ofVarDecl ss)

end

theorem onMethodDecl_ofVarDecl (m : Located MethodDecl) :
    (ofVarDecl g).onMethodDecl m = m.map (MethodDecl.mapDecls g) := by
  have hformals : onList (ofVarDecl g).onFormal m.node.formals = m.node.formals :=
    (onList_eq_map _ m.node.formals).trans (List.map_id _)
  rw [onMethodDecl, rebuildMethodDecl, hformals, onStmts_ofVarDecl, onExpr_ofVarDecl]
  rfl

theorem onClassDecl_ofVarDecl (c : Located ClassDecl) :
    (ofVarDecl g).onClassDecl c = c.map (ClassDecl.mapDecls g) := by
  have hmethods : (ofVarDecl g).onMethodDecl = (·.map (MethodDecl.mapDecls g)) :=
    funext (onMethodDecl_ofVarDecl g)
  have hparent : (ofVarDecl g).onParent c.node.parent = c.node.parent := by
    cases c.node.parent <;> rfl
  rw [onClassDecl, rebuildClassDecl, hparent, onList_eq_map, onList_eq_map, hmethods]
  rfl

theorem onMainClass_ofVarDecl (c : Located MainClass) :
    (ofVarDecl g).onMainClass c = c.map (MainClass.mapDecls g) := by
  rw [onMainClass, rebuildMainClass, onStmt, rebuildStmt_ofVarDecl]
  rfl

theorem onProgram_ofVarDecl (p : Located Program) :
    (ofVarDecl g).onProgram p = p.map (Program.mapDecls g) := by
  have hclasses : (ofVarDecl g).onClassDecl = (·.map (ClassDecl.mapDecls g)) :=
    funext (onClassDecl_ofVarDecl g)
  rw [onProgram, rebuildProgram, onMainClass_ofVarDecl, onList_eq_map, hclasses]
  rfl

end Transform

/-! ## Nothing else is replaced -/

namespace Stmt

variable (h : Located VarDecl → Located VarDecl)

mutual

/-- Replacing declarations twice replaces them by what the second function makes of the first. -/
theorem mapDecls_mapDecls (span : Span) : (s : Stmt) →
    (s.mapDecls g span).node.mapDecls h (s.mapDecls g span).span = s.mapDecls (h ∘ g) span
  | .block body => by simp only [mapDecls, mapDeclsList_mapDeclsList body]
  | .ifThen c ⟨t, u⟩ => by simp only [mapDecls, mapDecls_mapDecls u t]
  | .ifElse c ⟨t, u⟩ ⟨e, v⟩ => by
      simp only [mapDecls, mapDecls_mapDecls u t, mapDecls_mapDecls v e]
  | .loop c ⟨body, u⟩ => by simp only [mapDecls, mapDecls_mapDecls u body]
  | .varDecl _ => by simp only [mapDecls, Located.map, Function.comp_apply]
  | .print _ => by simp only [mapDecls]
  | .assign _ _ => by simp only [mapDecls]
  | .arrayAssign _ _ _ => by simp only [mapDecls]

theorem mapDeclsList_mapDeclsList : (ss : List (Located Stmt)) →
    mapDeclsList h (mapDeclsList g ss) = mapDeclsList (h ∘ g) ss
  | [] => by rw [mapDeclsList, mapDeclsList, mapDeclsList]
  | ⟨s, span⟩ :: ss => by
      simp only [mapDeclsList, mapDecls_mapDecls span s, mapDeclsList_mapDeclsList ss]

end

end Stmt

theorem MethodDecl.mapDecls_mapDecls (h : Located VarDecl → Located VarDecl) (m : MethodDecl) :
    (m.mapDecls g).mapDecls h = m.mapDecls (h ∘ g) := by
  simp only [mapDecls, Stmt.mapDeclsList_mapDeclsList]

theorem ClassDecl.mapDecls_mapDecls (h : Located VarDecl → Located VarDecl) (c : ClassDecl) :
    (c.mapDecls g).mapDecls h = c.mapDecls (h ∘ g) := by
  simp only [mapDecls, List.map_map, Function.comp_def, Located.map, MethodDecl.mapDecls_mapDecls]

theorem Program.mapDecls_mapDecls (h : Located VarDecl → Located VarDecl) (p : Program) :
    (p.mapDecls g).mapDecls h = p.mapDecls (h ∘ g) := by
  simp only [mapDecls, MainClass.mapDecls, List.map_map, Function.comp_def, Located.map,
    ClassDecl.mapDecls_mapDecls, Stmt.mapDecls_mapDecls]

/-! ## The list of declarations -/

namespace Stmt

theorem mapDeclsList_eq_map (ss : List (Located Stmt)) :
    mapDeclsList g ss = ss.map fun s => s.node.mapDecls g s.span := by
  induction ss with
  | nil => rfl
  | cons s ss ih => rw [mapDeclsList, ih, List.map_cons]

theorem children_mapDecls (span : Span) (s : Stmt) :
    (s.mapDecls g span).node.children = s.children.map fun t => t.node.mapDecls g t.span := by
  cases s with
  | block body => rw [mapDecls, children, children, mapDeclsList_eq_map]
  | varDecl decl => rw [mapDecls]; rfl
  | _ => simp [mapDecls, children]

/-- Only a declaration statement has a declaration of its own. -/
theorem decl?_mapDecls (span : Span) (s : Stmt) :
    (s.mapDecls g span).node.decl?.map (Located.mk · (s.mapDecls g span).span) =
      (s.decl?.map (Located.mk · span)).map g := by
  cases s <;> simp [mapDecls, decl?, Located.map]

theorem decls_mapDecls (s : Located Stmt) :
    (Node.stmt (s.node.mapDecls g s.span)).locatedDecls = (Node.stmt s).locatedDecls.map g := by
  induction s using induct_unfold tree_eq with
  | step s ih =>
      rw [locatedDecls_stmt, locatedDecls_stmt s, decl?_mapDecls, children_mapDecls,
        List.flatMap_map, List.flatMap_congr ih, List.map_append, List.map_flatMap]
      cases s.node.decl? <;> rfl

end Stmt

theorem MethodDecl.decls_mapDecls (m : Located MethodDecl) :
    (Node.methodDecl (m.map (MethodDecl.mapDecls g))).locatedDecls =
      (Node.methodDecl m).locatedDecls.map g := by
  simp [locatedDecls_methodDecl, Located.map, mapDecls, Stmt.mapDeclsList_eq_map, List.flatMap_map,
    List.map_flatMap, Stmt.decls_mapDecls]

theorem ClassDecl.decls_mapDecls (c : Located ClassDecl) :
    (Node.classDecl (c.map (ClassDecl.mapDecls g))).locatedDecls =
      (Node.classDecl c).locatedDecls.map g := by
  have hmethods := MethodDecl.decls_mapDecls g
  simp only [Located.map] at hmethods
  simp [locatedDecls_classDecl, Located.map, mapDecls, List.flatMap_map, List.map_flatMap, hmethods]

theorem Program.decls_mapDecls (p : Located Program) :
    (Node.program (p.map (Program.mapDecls g))).locatedDecls =
      (Node.program p).locatedDecls.map g := by
  have hclasses := ClassDecl.decls_mapDecls g
  simp only [Located.map] at hclasses
  simp [locatedDecls_program, Located.map, mapDecls, MainClass.mapDecls, List.flatMap_map,
    List.map_flatMap, Stmt.decls_mapDecls, hclasses]

end Replaced

/-- A transformation that has a hook for declarations alone puts what the hook makes of it in the
place of each declaration, that of a field or a declaration statement, and no more: with all
declarations blotted out, the program is as it was, and its list of declarations is the list from
before with the hook run on each. -/
theorem varDecl_hook_reaches_declarations (p : Located Program)
    (g : Located VarDecl → Located VarDecl) :
    let after : Located Program := (Transform.ofVarDecl g).onProgram p
    let decls := (Node.program p).locatedDecls
    after = p.map (Program.mapDecls g) ∧
      (∀ blot, after.map (Program.mapDecls fun _ => blot) =
        p.map (Program.mapDecls fun _ => blot)) ∧
      (Node.program after).locatedDecls = decls.map g ∧
      p.node.varDecls = decls.map Located.node ∧
      after.node.varDecls = decls.map fun d => (g d).node := by
  intro after decls
  have hafter : after = p.map (Program.mapDecls g) := Transform.onProgram_ofVarDecl g p
  have hdecls : (Node.program after).locatedDecls = decls.map g := by
    rw [hafter]
    exact Program.decls_mapDecls g p
  refine ⟨hafter, fun blot => ?_, hdecls, Program.varDecls_eq_map p, ?_⟩
  · rw [hafter]
    exact congrArg (Located.mk · p.span) (Program.mapDecls_mapDecls g (fun _ => blot) p.node)
  · rw [Program.varDecls_eq_map, hdecls, List.map_map]
    rfl

end MiniJava
