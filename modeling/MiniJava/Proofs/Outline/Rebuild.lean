import MiniJava.Proofs.Outline.Heading
import MiniJava.Proofs.Syntax.Sorts
import MiniJava.Proofs.Syntax.Spans
import MiniJava.Proofs.Tree.Levels

/-!
A node put together again from the tags of its tree. The construct of a node says which sorts of
parts it has, and the lists among its parts are of different sorts, so they can be told apart
although nothing marks where one ends.
-/
namespace MiniJava

open Outline MiniJava.Tree

/-- Take the span away. -/
abbrev Span.forget (_ : Span) : Span := .nowhere

namespace Node

/-- The class with the fields and methods among the nodes. -/
def ofMembers (name : Ident) (parent : Option Ident) (members : List Node) : Node :=
  .classDecl ⟨⟨name, parent, members.filterMap field?, members.filterMap methodDecl?⟩, .nowhere⟩

/-- The method with the formals and statements among the nodes that returns the expression there. -/
def ofMethodParts (ty : Located Ty) (name : Ident) (parts : List Node) : Option Node :=
  (parts.filterMap expr?).head?.map fun returnExpr => .methodDecl
    ⟨⟨ty, name, parts.filterMap formal?, parts.filterMap stmt?, returnExpr⟩, .nowhere⟩

/-- A conditional has an `else` if it has two branches. -/
def ofBranches (c : Located Expr) : List (Located Stmt) → Option Node
  | [t] => some (.stmt ⟨.ifThen c t, .nowhere⟩)
  | [t, e] => some (.stmt ⟨.ifElse c t e, .nowhere⟩)
  | _ => none

/-- The node of a construct with the parts given, if it can have them. -/
def ofConstruct : Construct → List Node → Option Node
  | .program, .mainClass c :: classes =>
    some (.program ⟨⟨c, classes.filterMap classDecl?⟩, .nowhere⟩)
  | .mainClass, [.ident name, .ident args, body] =>
    (stmt? body).map fun body => .mainClass ⟨⟨name, args, body⟩, .nowhere⟩
  | .rootClass, .ident name :: members => some (ofMembers name none members)
  | .derivedClass, .ident name :: .ident parent :: members =>
    some (ofMembers name (some parent) members)
  | .varDecl, .ty t :: .ident first :: rest =>
    some (.varDecl ⟨⟨t, first, rest.filterMap ident?⟩, .nowhere⟩)
  | .methodDecl, .ty t :: .ident name :: parts => ofMethodParts t name parts
  | .formal, [.ty t, .ident name] => some (.formal ⟨⟨t, name⟩, .nowhere⟩)
  | .intArrayType, [] => some (.ty ⟨.intArray, .nowhere⟩)
  | .booleanType, [] => some (.ty ⟨.boolean, .nowhere⟩)
  | .integerType, [] => some (.ty ⟨.integer, .nowhere⟩)
  | .block, body => some (.stmt ⟨.block (body.filterMap stmt?), .nowhere⟩)
  | .conditional, .expr c :: branches => ofBranches c (branches.filterMap stmt?)
  | .loop, [.expr c, body] => (stmt? body).map fun body => .stmt ⟨.loop c body, .nowhere⟩
  | .print, [.expr value] => some (.stmt ⟨.print value, .nowhere⟩)
  | .assign, [.ident target, .expr value] => some (.stmt ⟨.assign target value, .nowhere⟩)
  | .arrayAssign, [.ident target, .expr index, .expr value] =>
    some (.stmt ⟨.arrayAssign target index value, .nowhere⟩)
  | .binary op, [.expr left, .expr right] => some (.expr ⟨.binary op left right, .nowhere⟩)
  | .lookup, [.expr array, .expr index] => some (.expr ⟨.lookup array index, .nowhere⟩)
  | .length, [.expr array] => some (.expr ⟨.length array, .nowhere⟩)
  | .call, .expr receiver :: .ident method :: args =>
    some (.expr ⟨.call receiver method (args.filterMap expr?), .nowhere⟩)
  | .boolLiteral value, [] => some (.expr ⟨.bool value, .nowhere⟩)
  | .this, [] => some (.expr ⟨.this, .nowhere⟩)
  | .newArray, [.expr size] => some (.expr ⟨.newArray size, .nowhere⟩)
  | .newObject, [.ident className] => some (.expr ⟨.newObject className, .nowhere⟩)
  | .not, [.expr operand] => some (.expr ⟨.not operand, .nowhere⟩)
  | _, _ => none

def ofTag : Tag → List Node → Option Node
  | .bare c, parts => ofConstruct c parts
  | .int value, _ => some (.expr ⟨.int value, .nowhere⟩)
  | .var name, _ => some (.expr ⟨.var name, .nowhere⟩)
  | .namedType name, _ => some (.ty ⟨.named name, .nowhere⟩)
  | .ident name, _ => some (.ident ⟨name, .nowhere⟩)

mutual

/-- Put a tree of tags together from below. -/
def rebuild : Tree Tag → Option Node
  | .node tag parts => ofTag tag (rebuildList parts)

def rebuildList : List (Tree Tag) → List Node
  | [] => []
  | t :: ts => (rebuild t).toList ++ rebuildList ts

end

/-! ## Putting together the tags of a tree -/

theorem rebuild_node (n : Node) (parts : List (Tree Node)) :
    rebuild ((Tree.node n parts).map tag) = ofTag n.tag (rebuildList (mapList tag parts)) := by
  rw [map, rebuild]

theorem rebuildList_cons {t : Tree Node} {n : Node} (h : rebuild (t.map tag) = some n)
    (ts : List (Tree Node)) :
    rebuildList (mapList tag (t :: ts)) = n :: rebuildList (mapList tag ts) := by
  rw [mapList, rebuildList, h]
  rfl

theorem rebuildList_append (ts ts' : List (Tree Node)) :
    rebuildList (mapList tag (ts ++ ts')) =
      rebuildList (mapList tag ts) ++ rebuildList (mapList tag ts') := by
  induction ts with
  | nil => rfl
  | cons t ts ih => simp only [List.cons_append, mapList, rebuildList, ih, List.append_assoc]

theorem rebuildList_map {α β : Type} {f : α → Tree Node} {g : α → β} {n : β → Node}
    (h : ∀ a, rebuild ((f a).map tag) = some (n (g a))) (as : List α) :
    rebuildList (mapList tag (as.map f)) = (as.map g).map n := by
  induction as with
  | nil => rfl
  | cons a as ih => rw [List.map_cons, rebuildList_cons (h a), ih, List.map_cons, List.map_cons]

theorem rebuild_identTree (i : Ident) :
    rebuild ((identTree i).map tag) = some (.ident (i.respan .forget)) := rfl

theorem rebuild_tyTree (t : Located Ty) :
    rebuild ((tyTree t).map tag) = some (.ty (t.respan .forget)) := by
  obtain ⟨t, span⟩ := t
  cases t <;> rfl

mutual

theorem rebuild_exprTree : (e : Located Expr) →
    rebuild ((exprTree e).map tag) = some (.expr ⟨e.node.erase, .nowhere⟩)
  | ⟨e, span⟩ => by
      rw [exprTree, rebuild_node]
      exact ofTag_exprParts span e

theorem ofTag_exprParts (span : Span) : (e : Expr) →
    ofTag (tag (.expr ⟨e, span⟩)) (rebuildList (mapList tag (exprParts e))) =
      some (.expr ⟨e.erase, .nowhere⟩)
  | .binary _ ⟨l, s⟩ ⟨r, t⟩ => by
      rw [exprParts, rebuildList_cons (rebuild_exprTree ⟨l, s⟩),
        rebuildList_cons (rebuild_exprTree ⟨r, t⟩)]
      rfl
  | .lookup ⟨a, s⟩ ⟨i, t⟩ => by
      rw [exprParts, rebuildList_cons (rebuild_exprTree ⟨a, s⟩),
        rebuildList_cons (rebuild_exprTree ⟨i, t⟩)]
      rfl
  | .length ⟨a, s⟩ => by
      rw [exprParts, rebuildList_cons (rebuild_exprTree ⟨a, s⟩)]
      rfl
  | .call ⟨r, s⟩ method args => by
      rw [exprParts, rebuildList_cons (rebuild_exprTree ⟨r, s⟩),
        rebuildList_cons (rebuild_identTree method), rebuildList_exprTrees args]
      have hargs := filterMap_map_self (f := .expr) (p := expr?) (fun _ => rfl)
        (Expr.mapSpansList .forget args)
      exact congrArg (fun args => some (Node.expr ⟨.call _ _ args, .nowhere⟩)) hargs
  | .int _ => rfl
  | .bool _ => rfl
  | .var _ => rfl
  | .this => rfl
  | .newArray ⟨n, s⟩ => by
      rw [exprParts, rebuildList_cons (rebuild_exprTree ⟨n, s⟩)]
      rfl
  | .newObject _ => rfl
  | .not ⟨e, s⟩ => by
      rw [exprParts, rebuildList_cons (rebuild_exprTree ⟨e, s⟩)]
      rfl

theorem rebuildList_exprTrees : (es : List (Located Expr)) →
    rebuildList (mapList tag (exprTrees es)) =
      (Expr.mapSpansList .forget es).map Node.expr
  | [] => rfl
  | ⟨e, s⟩ :: es => by
      rw [exprTrees, rebuildList_cons (rebuild_exprTree ⟨e, s⟩), rebuildList_exprTrees es]
      rfl

end

theorem rebuildList_varDeclParts (d : VarDecl) :
    rebuildList (mapList tag (varDeclParts d)) =
      .ty (d.ty.respan .forget) :: (d.idents.map (·.respan .forget)).map Node.ident := by
  rw [varDeclParts, rebuildList_cons (rebuild_tyTree d.ty),
    rebuildList_map (n := .ident) rebuild_identTree]

theorem ofTag_varDeclParts (d : VarDecl) :
    ofTag (.bare .varDecl) (rebuildList (mapList tag (varDeclParts d))) =
      some (.varDecl ⟨d.mapSpans .forget, .nowhere⟩) := by
  have hrest := filterMap_map_self (f := .ident) (p := ident?) (fun _ => rfl)
    (d.rest.map (·.respan .forget))
  rw [rebuildList_varDeclParts]
  exact congrArg (fun rest => some (Node.varDecl ⟨⟨_, _, rest⟩, .nowhere⟩)) hrest

theorem tag_ofStmt (s : Stmt) (span : Span) : (ofStmt s span).tag = .bare s.construct := by
  cases s <;> rfl

theorem stmt?_ofStmt (s : Located Stmt) : stmt? (ofStmt s.node s.span) = some s := by
  obtain ⟨s, span⟩ := s
  cases s <;> rfl

theorem formal?_ofStmt (s : Stmt) (span : Span) : formal? (ofStmt s span) = none := by
  cases s <;> rfl

theorem expr?_ofStmt (s : Stmt) (span : Span) : expr? (ofStmt s span) = none := by
  cases s <;> rfl

mutual

theorem rebuild_stmtTree : (s : Located Stmt) →
    rebuild ((stmtTree s).map tag) = some (ofStmt (s.node.mapSpans .forget) .nowhere)
  | ⟨s, span⟩ => by
      rw [stmtTree, rebuild_node, tag_ofStmt]
      exact ofConstruct_stmtParts s

theorem ofConstruct_stmtParts : (s : Stmt) →
    ofConstruct s.construct (rebuildList (mapList tag (stmtParts s))) =
      some (ofStmt (s.mapSpans .forget) .nowhere)
  | .block body => by
      rw [stmtParts, rebuildList_stmtTrees body]
      have hbody := filterMap_map_self stmt?_ofStmt (Stmt.mapSpansList .forget body)
      exact congrArg (fun body => some (Node.stmt ⟨.block body, .nowhere⟩)) hbody
  | .ifThen c ⟨t, s⟩ => by
      rw [stmtParts, rebuildList_cons (rebuild_exprTree c),
        rebuildList_cons (rebuild_stmtTree ⟨t, s⟩)]
      exact congrArg (ofBranches _)
        (filterMap_map_self stmt?_ofStmt [⟨t.mapSpans .forget, .nowhere⟩])
  | .ifElse c ⟨t, s⟩ ⟨e, u⟩ => by
      rw [stmtParts, rebuildList_cons (rebuild_exprTree c),
        rebuildList_cons (rebuild_stmtTree ⟨t, s⟩), rebuildList_cons (rebuild_stmtTree ⟨e, u⟩)]
      exact congrArg (ofBranches _) (filterMap_map_self stmt?_ofStmt
        [⟨t.mapSpans .forget, .nowhere⟩, ⟨e.mapSpans .forget, .nowhere⟩])
  | .loop c ⟨body, s⟩ => by
      rw [stmtParts, rebuildList_cons (rebuild_exprTree c),
        rebuildList_cons (rebuild_stmtTree ⟨body, s⟩)]
      exact congrArg (Option.map _) (stmt?_ofStmt ⟨body.mapSpans .forget, .nowhere⟩)
  | .print value => by
      rw [stmtParts, rebuildList_cons (rebuild_exprTree value)]
      rfl
  | .assign target value => by
      rw [stmtParts, rebuildList_cons (rebuild_identTree target),
        rebuildList_cons (rebuild_exprTree value)]
      rfl
  | .arrayAssign target index value => by
      rw [stmtParts, rebuildList_cons (rebuild_identTree target),
        rebuildList_cons (rebuild_exprTree index), rebuildList_cons (rebuild_exprTree value)]
      rfl
  | .varDecl decl => ofTag_varDeclParts decl

theorem rebuildList_stmtTrees : (ss : List (Located Stmt)) →
    rebuildList (mapList tag (stmtTrees ss)) =
      (Stmt.mapSpansList .forget ss).map fun s => ofStmt s.node s.span
  | [] => rfl
  | ⟨s, span⟩ :: ss => by
      rw [stmtTrees, rebuildList_cons (rebuild_stmtTree ⟨s, span⟩), rebuildList_stmtTrees ss]
      rfl

end

theorem rebuild_varDeclTree (d : Located VarDecl) :
    rebuild ((varDeclTree d).map tag) = some (.varDecl (d.mapSpans VarDecl.mapSpans .forget)) := by
  rw [varDeclTree, rebuild_node]
  exact ofTag_varDeclParts d.node

theorem rebuild_formalTree (f : Located Formal) :
    rebuild ((formalTree f).map tag) = some (.formal (f.mapSpans Formal.mapSpans .forget)) := by
  rw [formalTree, rebuild_node, rebuildList_cons (rebuild_tyTree f.node.ty)]
  rfl

theorem ofMethodParts_eq (m : MethodDecl) :
    ofMethodParts m.returnType m.name (m.formals.map .formal ++
      m.body.map (fun s => ofStmt s.node s.span) ++ [.expr m.returnExpr]) =
      some (.methodDecl ⟨m, .nowhere⟩) := by
  -- A statement is no formal and no expression, and of the three sorts only statements vary in how
  -- they are built, so the other two are left to `simp`.
  have hbody {β : Type} {p : Node → Option β} (h : ∀ s span, p (ofStmt s span) = none) :
      (m.body.map fun s => ofStmt s.node s.span).filterMap p = [] :=
    filterMap_map_other (fun s => h s.node s.span) m.body
  simp only [ofMethodParts, List.filterMap_append, hbody formal?_ofStmt, hbody expr?_ofStmt,
    filterMap_map_self stmt?_ofStmt]
  simp [formal?, stmt?, expr?, Function.comp_def, List.filterMap_cons]

theorem rebuild_methodTree (m : Located MethodDecl) :
    rebuild ((methodTree m).map tag) =
      some (.methodDecl (m.mapSpans MethodDecl.mapSpans .forget)) := by
  obtain ⟨⟨returnType, name, formals, body, returnExpr⟩, span⟩ := m
  rw [methodTree, rebuild_node]
  simp only [List.cons_append, List.nil_append]
  rw [rebuildList_cons (rebuild_tyTree returnType), rebuildList_cons (rebuild_identTree name),
    rebuildList_append, rebuildList_append, rebuildList_map (n := .formal) rebuild_formalTree,
    ← stmtTrees_eq_map, rebuildList_stmtTrees, rebuildList_cons (rebuild_exprTree returnExpr)]
  exact ofMethodParts_eq (MethodDecl.mapSpans .forget ⟨returnType, name, formals, body, returnExpr⟩)

theorem ofMembers_eq (name : Ident) (parent : Option Ident) (fields : List (Located VarDecl))
    (methods : List (Located MethodDecl)) :
    ofMembers name parent (fields.map .varDecl ++ methods.map .methodDecl) =
      .classDecl ⟨⟨name, parent, fields, methods⟩, .nowhere⟩ := by
  simp [ofMembers, field?, methodDecl?, Function.comp_def]

theorem rebuild_classTree (c : Located ClassDecl) :
    rebuild ((classTree c).map tag) =
      some (.classDecl (c.mapSpans ClassDecl.mapSpans .forget)) := by
  obtain ⟨⟨name, parent, fields, methods⟩, span⟩ := c
  have hmembers (parent : Option Ident) := congrArg some <|
    ofMembers_eq (name.respan .forget) parent (fields.map (·.mapSpans VarDecl.mapSpans .forget))
      (methods.map (·.mapSpans MethodDecl.mapSpans .forget))
  rw [classTree, rebuild_node]
  simp only [List.cons_append, List.nil_append, List.append_assoc]
  rw [rebuildList_cons (rebuild_identTree name), rebuildList_append, rebuildList_append,
    rebuildList_map (n := .ident) rebuild_identTree,
    rebuildList_map (n := .varDecl) rebuild_varDeclTree,
    rebuildList_map (n := .methodDecl) rebuild_methodTree]
  cases parent with
  | none => exact hmembers none
  | some parent => exact hmembers (some (parent.respan .forget))

theorem rebuild_mainClassTree (c : Located MainClass) :
    rebuild ((mainClassTree c).map tag) =
      some (.mainClass (c.mapSpans MainClass.mapSpans .forget)) := by
  rw [mainClassTree, rebuild_node, rebuildList_cons (rebuild_identTree c.node.name),
    rebuildList_cons (rebuild_identTree c.node.args),
    rebuildList_cons (rebuild_stmtTree c.node.body)]
  exact congrArg (Option.map _) (stmt?_ofStmt (c.node.body.mapSpans Stmt.mapSpans .forget))

theorem rebuild_programTree (p : Located Program) :
    rebuild ((programTree p).map tag) = some (.program (p.mapSpans Program.mapSpans .forget)) := by
  rw [programTree, rebuild_node, rebuildList_cons (rebuild_mainClassTree p.node.mainClass),
    rebuildList_map (n := .classDecl) rebuild_classTree]
  have hclasses := filterMap_map_self (f := .classDecl) (p := classDecl?) (fun _ => rfl)
    (p.node.classes.map (·.mapSpans ClassDecl.mapSpans .forget))
  exact congrArg (fun classes => some (Node.program ⟨⟨_, classes⟩, .nowhere⟩)) hclasses

/-- A declaration is a statement where a statement is due. -/
def ofKind : NodeKind → Node → Node
  | .stmt, .varDecl d => .stmt ⟨.varDecl d.node, d.span⟩
  | _, n => n

/-- A node can be put together from its kind and the tags of its tree, spans aside. -/
theorem rebuild_tree (n : Node) :
    (rebuild (n.tree.map tag)).map (ofKind n.kind) = some n.erase := by
  cases n with
  | program p => exact congrArg (Option.map _) (rebuild_programTree p)
  | mainClass c => exact congrArg (Option.map _) (rebuild_mainClassTree c)
  | classDecl c => exact congrArg (Option.map _) (rebuild_classTree c)
  | varDecl d => exact congrArg (Option.map _) (rebuild_varDeclTree d)
  | methodDecl m => exact congrArg (Option.map _) (rebuild_methodTree m)
  | formal f => exact congrArg (Option.map _) (rebuild_formalTree f)
  | ty t => exact congrArg (Option.map _) (rebuild_tyTree t)
  | stmt s =>
      obtain ⟨s, span⟩ := s
      rw [tree, rebuild_stmtTree]
      cases s <;> rfl
  | expr e => exact congrArg (Option.map _) (rebuild_exprTree e)
  | ident i => exact congrArg (Option.map _) (rebuild_identTree i)

end Node

end MiniJava
