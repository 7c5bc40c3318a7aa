import MiniJava.Proofs.Outline.Lines
import MiniJava.Proofs.Syntax.Spans

/-!
Changing the spans of a node changes the spans in its tree and nothing else there, so an outline
without locations does not depend on spans.
-/
namespace MiniJava

open MiniJava.Tree

namespace Node

variable (g : Span → Span)

/-! ## Trees -/

mutual

theorem exprParts_mapSpans : (e : Expr) →
    exprParts (e.mapSpans g) = mapList (mapSpans g) (exprParts e)
  | .binary _ ⟨l, _⟩ ⟨r, _⟩ => by
      simp only [Expr.mapSpans, exprParts, exprTree, mapList, map, mapSpans, Located.mapSpans,
        exprParts_mapSpans l, exprParts_mapSpans r]
  | .lookup ⟨a, _⟩ ⟨i, _⟩ => by
      simp only [Expr.mapSpans, exprParts, exprTree, mapList, map, mapSpans, Located.mapSpans,
        exprParts_mapSpans a, exprParts_mapSpans i]
  | .length ⟨a, _⟩ => by
      simp only [Expr.mapSpans, exprParts, exprTree, mapList, map, mapSpans, Located.mapSpans,
        exprParts_mapSpans a]
  | .call ⟨r, _⟩ _ args => by
      simp only [Expr.mapSpans, exprParts, exprTree, identTree, mapList, map, mapSpans,
        Located.mapSpans, exprParts_mapSpans r, exprTrees_mapSpans args]
  | .newArray ⟨n, _⟩ => by
      simp only [Expr.mapSpans, exprParts, exprTree, mapList, map, mapSpans, Located.mapSpans,
        exprParts_mapSpans n]
  | .newObject _ => rfl
  | .not ⟨e, _⟩ => by
      simp only [Expr.mapSpans, exprParts, exprTree, mapList, map, mapSpans, Located.mapSpans,
        exprParts_mapSpans e]
  | .int _ => rfl
  | .bool _ => rfl
  | .var _ => rfl
  | .this => rfl

theorem exprTrees_mapSpans : (es : List (Located Expr)) →
    exprTrees (Expr.mapSpansList g es) = mapList (mapSpans g) (exprTrees es)
  | [] => rfl
  | ⟨e, _⟩ :: es => by
      simp only [Expr.mapSpansList, exprTrees, exprTree, mapList, map, mapSpans, Located.mapSpans,
        exprParts_mapSpans e, exprTrees_mapSpans es]

end

theorem exprTree_mapSpans (e : Located Expr) :
    exprTree (e.mapSpans Expr.mapSpans g) = (exprTree e).map (mapSpans g) := by
  obtain ⟨e, span⟩ := e
  rw [Located.mapSpans, exprTree, exprTree, map, exprParts_mapSpans]
  rfl

theorem map_mapSpans {α : Type} {f : α → Tree Node} {h : α → α}
    (eq : ∀ a, f (h a) = (f a).map (mapSpans g)) (as : List α) :
    (as.map h).map f = (as.map f).map (map (mapSpans g)) := by
  rw [List.map_map, List.map_map]
  exact congrArg (as.map ·) (funext eq)

theorem identTree_mapSpans (i : Ident) :
    identTree (i.respan g) = (identTree i).map (mapSpans g) := rfl

theorem varDeclParts_mapSpans (d : VarDecl) :
    varDeclParts (d.mapSpans g) = mapList (mapSpans g) (varDeclParts d) := by
  rw [mapList_eq_map, varDeclParts, varDeclParts, List.map_cons,
    ← map_mapSpans g (identTree_mapSpans g)]
  rfl

theorem ofStmt_mapSpans (s : Stmt) (span : Span) :
    ofStmt (s.mapSpans g) (g span) = (ofStmt s span).mapSpans g := by
  cases s <;> rfl

mutual

theorem stmtParts_mapSpans : (s : Stmt) →
    stmtParts (s.mapSpans g) = mapList (mapSpans g) (stmtParts s)
  | .block body => by rw [Stmt.mapSpans, stmtParts, stmtParts, stmtTrees_mapSpans body]
  | .ifThen c ⟨t, _⟩ => by
      simp only [Stmt.mapSpans, stmtParts, stmtTree, mapList, map, exprTree_mapSpans,
        ofStmt_mapSpans, stmtParts_mapSpans t]
  | .ifElse c ⟨t, _⟩ ⟨e, _⟩ => by
      simp only [Stmt.mapSpans, stmtParts, stmtTree, mapList, map, exprTree_mapSpans,
        ofStmt_mapSpans, stmtParts_mapSpans t, stmtParts_mapSpans e]
  | .loop c ⟨body, _⟩ => by
      simp only [Stmt.mapSpans, stmtParts, stmtTree, mapList, map, exprTree_mapSpans,
        ofStmt_mapSpans, stmtParts_mapSpans body]
  | .print value => by simp only [Stmt.mapSpans, stmtParts, mapList, exprTree_mapSpans]
  | .assign target value => by
      simp only [Stmt.mapSpans, stmtParts, mapList, exprTree_mapSpans, identTree_mapSpans]
  | .arrayAssign target index value => by
      simp only [Stmt.mapSpans, stmtParts, mapList, exprTree_mapSpans, identTree_mapSpans]
  | .varDecl decl => by rw [Stmt.mapSpans, stmtParts, stmtParts, varDeclParts_mapSpans]

theorem stmtTrees_mapSpans : (ss : List (Located Stmt)) →
    stmtTrees (Stmt.mapSpansList g ss) = mapList (mapSpans g) (stmtTrees ss)
  | [] => rfl
  | ⟨s, _⟩ :: ss => by
      simp only [Stmt.mapSpansList, stmtTrees, stmtTree, mapList, map, ofStmt_mapSpans,
        stmtParts_mapSpans s, stmtTrees_mapSpans ss]

end

theorem stmtTree_mapSpans (s : Located Stmt) :
    stmtTree (s.mapSpans Stmt.mapSpans g) = (stmtTree s).map (mapSpans g) := by
  obtain ⟨s, span⟩ := s
  rw [Located.mapSpans, stmtTree, stmtTree, map, ofStmt_mapSpans, stmtParts_mapSpans]

theorem varDeclTree_mapSpans (d : Located VarDecl) :
    varDeclTree (d.mapSpans VarDecl.mapSpans g) = (varDeclTree d).map (mapSpans g) := by
  rw [varDeclTree, varDeclTree, map, ← varDeclParts_mapSpans]
  rfl

theorem formalTree_mapSpans (f : Located Formal) :
    formalTree (f.mapSpans Formal.mapSpans g) = (formalTree f).map (mapSpans g) := rfl

theorem methodTree_mapSpans (m : Located MethodDecl) :
    methodTree (m.mapSpans MethodDecl.mapSpans g) = (methodTree m).map (mapSpans g) := by
  rw [methodTree, methodTree, map, mapList_eq_map]
  simp only [List.map_append, ← map_mapSpans g (formalTree_mapSpans g),
    ← map_mapSpans g (stmtTree_mapSpans g), ← Stmt.mapSpansList_eq_map]
  simp only [List.map_cons, List.map_nil, ← exprTree_mapSpans]
  rfl

theorem classTree_mapSpans (c : Located ClassDecl) :
    classTree (c.mapSpans ClassDecl.mapSpans g) = (classTree c).map (mapSpans g) := by
  obtain ⟨⟨name, parent, fields, methods⟩, span⟩ := c
  rw [classTree, classTree, map, mapList_eq_map]
  simp only [List.map_append, ← map_mapSpans g (varDeclTree_mapSpans g),
    ← map_mapSpans g (methodTree_mapSpans g)]
  cases parent <;> rfl

theorem mainClassTree_mapSpans (c : Located MainClass) :
    mainClassTree (c.mapSpans MainClass.mapSpans g) = (mainClassTree c).map (mapSpans g) := by
  rw [mainClassTree, mainClassTree, map, mapList, mapList, mapList, ← stmtTree_mapSpans]
  rfl

theorem programTree_mapSpans (p : Located Program) :
    programTree (p.mapSpans Program.mapSpans g) = (programTree p).map (mapSpans g) := by
  rw [programTree, programTree, map, mapList, ← mainClassTree_mapSpans, mapList_eq_map,
    ← map_mapSpans g (classTree_mapSpans g)]
  rfl

/-- Changing the spans of a node changes the nodes of its tree one by one. -/
theorem tree_mapSpans : (n : Node) → (n.mapSpans g).tree = n.tree.map (mapSpans g)
  | .program p => programTree_mapSpans g p
  | .mainClass c => mainClassTree_mapSpans g c
  | .classDecl c => classTree_mapSpans g c
  | .varDecl d => varDeclTree_mapSpans g d
  | .methodDecl m => methodTree_mapSpans g m
  | .formal f => formalTree_mapSpans g f
  | .ty _ => rfl
  | .stmt s => stmtTree_mapSpans g s
  | .expr e => exprTree_mapSpans g e
  | .ident _ => rfl

/-! ## Outlines -/

theorem construct_mapSpans (n : Node) : (n.mapSpans g).construct = n.construct := by
  cases n with
  | classDecl c =>
      obtain ⟨⟨name, parent, fields, methods⟩, span⟩ := c
      cases parent <;> rfl
  | stmt s =>
      obtain ⟨s, span⟩ := s
      cases s <;> rfl
  | expr e =>
      obtain ⟨e, span⟩ := e
      cases e <;> rfl
  | _ => rfl

theorem heading_mapSpans (n : Node) : (n.mapSpans g).heading = n.heading := by
  cases n with
  | classDecl c => exact congrArg Construct.name (construct_mapSpans g (.classDecl c))
  | stmt s => exact congrArg Construct.name (construct_mapSpans g (.stmt s))
  | expr e =>
      obtain ⟨e, span⟩ := e
      cases e <;> rfl
  | ty t =>
      obtain ⟨t, span⟩ := t
      cases t <;> rfl
  | _ => rfl

theorem outline_mapSpans (n : Node) {config : Config} (h : config.showLocations = false) :
    (n.mapSpans g).outline config = n.outline config := by
  have hline (l : Nat × Node) :
      Outline.line false (Prod.map id (mapSpans g) l) = Outline.line false l :=
    congrArg (Line.code l.1) (heading_mapSpans g l.2)
  rw [Outline.output_outline, Outline.output_outline, tree_mapSpans, levels_map, h, List.map_map]
  exact congrArg _ (congrArg (List.map · _) (funext hline))

end Node

end MiniJava
