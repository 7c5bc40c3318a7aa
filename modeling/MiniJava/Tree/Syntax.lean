import MiniJava.Syntax.Node
import MiniJava.Tree.Basic

/-!
Syntax as trees. `Expr.tree` holds the subexpressions of an expression, `Stmt.tree` the
substatements of a statement, and `Node.tree` every located piece of syntax of a node, names and
types included, in source order.
-/
namespace MiniJava

namespace Expr

mutual

def tree : Located Expr → Tree (Located Expr)
  | ⟨e, span⟩ => .node ⟨e, span⟩ (subtrees e)

def subtrees : Expr → List (Tree (Located Expr))
  | .binary _ left right => [tree left, tree right]
  | .lookup array index => [tree array, tree index]
  | .length array => [tree array]
  | .call receiver _ args => tree receiver :: treeList args
  | .newArray size => [tree size]
  | .not operand => [tree operand]
  | .int _ | .bool _ | .var _ | .this | .newObject _ => []

def treeList : List (Located Expr) → List (Tree (Located Expr))
  | [] => []
  | e :: es => tree e :: treeList es

end

end Expr

namespace Stmt

mutual

def tree : Located Stmt → Tree (Located Stmt)
  | ⟨s, span⟩ => .node ⟨s, span⟩ (subtrees s)

def subtrees : Stmt → List (Tree (Located Stmt))
  | .block body => treeList body
  | .ifThen _ t => [tree t]
  | .ifElse _ t e => [tree t, tree e]
  | .loop _ body => [tree body]
  | .print _ | .assign _ _ | .arrayAssign _ _ _ | .varDecl _ => []

def treeList : List (Located Stmt) → List (Tree (Located Stmt))
  | [] => []
  | s :: ss => tree s :: treeList ss

end

mutual

/-- Run the action at every subexpression of every expression of the statement, in source order,
each expression before its subexpressions. -/
def walkExprs {m : Type → Type} [Monad m] (act : Located Expr → m Unit) : Stmt → m Unit
  | .block body => walkExprsList act body
  | .ifThen c ⟨t, _⟩ => do (Expr.tree c).walk act; walkExprs act t
  | .ifElse c ⟨t, _⟩ ⟨e, _⟩ => do (Expr.tree c).walk act; walkExprs act t; walkExprs act e
  | .loop c ⟨body, _⟩ => do (Expr.tree c).walk act; walkExprs act body
  | .print value => (Expr.tree value).walk act
  | .assign _ value => (Expr.tree value).walk act
  | .arrayAssign _ index value => do (Expr.tree index).walk act; (Expr.tree value).walk act
  | .varDecl _ => pure ()

def walkExprsList {m : Type → Type} [Monad m] (act : Located Expr → m Unit) :
    List (Located Stmt) → m Unit
  | [] => pure ()
  | ⟨s, _⟩ :: ss => do walkExprs act s; walkExprsList act ss

end

end Stmt

namespace Node

def identTree (i : Ident) : Tree Node := .node (.ident i) []

def tyTree (t : Located Ty) : Tree Node := .node (.ty t) []

mutual

/-- The tree of an expression, with the names of methods and classes. -/
def exprTree : Located Expr → Tree Node
  | ⟨e, span⟩ => .node (.expr ⟨e, span⟩) (exprParts e)

def exprParts : Expr → List (Tree Node)
  | .binary _ left right => [exprTree left, exprTree right]
  | .lookup array index => [exprTree array, exprTree index]
  | .length array => [exprTree array]
  | .call receiver method args => exprTree receiver :: identTree method :: exprTrees args
  | .newArray size => [exprTree size]
  | .newObject className => [identTree className]
  | .not operand => [exprTree operand]
  | .int _ | .bool _ | .var _ | .this => []

def exprTrees : List (Located Expr) → List (Tree Node)
  | [] => []
  | e :: es => exprTree e :: exprTrees es

end

def varDeclParts (d : VarDecl) : List (Tree Node) := tyTree d.ty :: d.idents.map identTree

/-- The node of a statement. A declaration statement and its declaration are one node. -/
def ofStmt (s : Stmt) (span : Span) : Node :=
  match s with
  | .varDecl decl => .varDecl ⟨decl, span⟩
  | s => .stmt ⟨s, span⟩

mutual

/-- The tree of a statement, with its expressions and names. -/
def stmtTree : Located Stmt → Tree Node
  | ⟨s, span⟩ => .node (ofStmt s span) (stmtParts s)

def stmtParts : Stmt → List (Tree Node)
  | .block body => stmtTrees body
  | .ifThen c t => [exprTree c, stmtTree t]
  | .ifElse c t e => [exprTree c, stmtTree t, stmtTree e]
  | .loop c body => [exprTree c, stmtTree body]
  | .print value => [exprTree value]
  | .assign target value => [identTree target, exprTree value]
  | .arrayAssign target index value => [identTree target, exprTree index, exprTree value]
  | .varDecl decl => varDeclParts decl

def stmtTrees : List (Located Stmt) → List (Tree Node)
  | [] => []
  | s :: ss => stmtTree s :: stmtTrees ss

end

theorem stmtTrees_eq_map (ss : List (Located Stmt)) : stmtTrees ss = ss.map stmtTree := by
  induction ss with
  | nil => rfl
  | cons s ss ih => rw [stmtTrees, ih, List.map_cons]

/-- The tree of a declaration that is not a statement. -/
def varDeclTree (d : Located VarDecl) : Tree Node := .node (.varDecl d) (varDeclParts d.node)

def formalTree (f : Located Formal) : Tree Node :=
  .node (.formal f) [tyTree f.node.ty, identTree f.node.name]

def methodTree (m : Located MethodDecl) : Tree Node :=
  .node (.methodDecl m) <|
    [tyTree m.node.returnType, identTree m.node.name] ++ m.node.formals.map formalTree ++
      m.node.body.map stmtTree ++ [exprTree m.node.returnExpr]

def classTree (c : Located ClassDecl) : Tree Node :=
  .node (.classDecl c) <|
    [identTree c.node.name] ++ c.node.parent.toList.map identTree ++
      c.node.fields.map varDeclTree ++ c.node.methods.map methodTree

def mainClassTree (c : Located MainClass) : Tree Node :=
  .node (.mainClass c) [identTree c.node.name, identTree c.node.args, stmtTree c.node.body]

def programTree (p : Located Program) : Tree Node :=
  .node (.program p) (mainClassTree p.node.mainClass :: p.node.classes.map classTree)

/-- Every located piece of syntax of the node, as a tree in source order. -/
def tree : Node → Tree Node
  | .program p => programTree p
  | .mainClass c => mainClassTree c
  | .classDecl c => classTree c
  | .varDecl d => varDeclTree d
  | .methodDecl m => methodTree m
  | .formal f => formalTree f
  | .ty t => tyTree t
  | .stmt s => stmtTree s
  | .expr e => exprTree e
  | .ident i => identTree i

end Node

end MiniJava
