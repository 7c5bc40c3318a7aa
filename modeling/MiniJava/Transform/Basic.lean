import MiniJava.Syntax.Node

/-!
Transformations: a tree is built anew from the bottom up, and a hook for each sort of node says what
takes the node's place. The hook is given the node and the action that rebuilds it from transformed
parts with its span kept; a hook that does not run that action leaves the parts alone.
-/
namespace MiniJava

/-- A hook for each sort of node. Types and names have no parts, so their hooks are given the node
alone. A declaration statement goes through the hook for statements and, when that rebuilds it,
through the hook for declarations. -/
structure Transform (m : Type → Type) [Monad m] where
  program : Located Program → m (Located Program) → m (Located Program) := fun _ rebuild => rebuild
  mainClass : Located MainClass → m (Located MainClass) → m (Located MainClass) :=
    fun _ rebuild => rebuild
  classDecl : Located ClassDecl → m (Located ClassDecl) → m (Located ClassDecl) :=
    fun _ rebuild => rebuild
  varDecl : Located VarDecl → m (Located VarDecl) → m (Located VarDecl) := fun _ rebuild => rebuild
  methodDecl : Located MethodDecl → m (Located MethodDecl) → m (Located MethodDecl) :=
    fun _ rebuild => rebuild
  formal : Located Formal → m (Located Formal) → m (Located Formal) := fun _ rebuild => rebuild
  ty : Located Ty → m (Located Ty) := pure
  stmt : Located Stmt → m (Located Stmt) → m (Located Stmt) := fun _ rebuild => rebuild
  expr : Located Expr → m (Located Expr) → m (Located Expr) := fun _ rebuild => rebuild
  /-- Reached for every identifier that declares or refers to a class, method or variable, save for
  the uses of variables in expressions and of classes as types, which are no identifiers. -/
  ident : Ident → m Ident := pure

namespace Transform

variable {m : Type → Type} [Monad m] (t : Transform m)

/-- Transform a list from left to right. -/
def onList {α : Type} (f : α → m α) : List α → m (List α)
  | [] => pure []
  | a :: as => return (← f a) :: (← onList f as)

mutual

def onExpr : Located Expr → m (Located Expr)
  | ⟨e, span⟩ => t.expr ⟨e, span⟩ do return ⟨← rebuildExpr e, span⟩

def rebuildExpr : Expr → m Expr
  | .binary op left right => return .binary op (← onExpr left) (← onExpr right)
  | .lookup array index => return .lookup (← onExpr array) (← onExpr index)
  | .length array => return .length (← onExpr array)
  | .call receiver method args =>
    return .call (← onExpr receiver) (← t.ident method) (← onExprs args)
  | .newArray size => return .newArray (← onExpr size)
  | .newObject className => return .newObject (← t.ident className)
  | .not operand => return .not (← onExpr operand)
  | .int value => return .int value
  | .bool value => return .bool value
  | .var name => return .var name
  | .this => return .this

def onExprs : List (Located Expr) → m (List (Located Expr))
  | [] => pure []
  | e :: es => return (← onExpr e) :: (← onExprs es)

end

def rebuildVarDecl (d : VarDecl) : m VarDecl :=
  return ⟨← t.ty d.ty, ← t.ident d.first, ← onList t.ident d.rest⟩

def onVarDecl (d : Located VarDecl) : m (Located VarDecl) :=
  t.varDecl d do return ⟨← t.rebuildVarDecl d.node, d.span⟩

mutual

def onStmt : Located Stmt → m (Located Stmt)
  | ⟨s, span⟩ => t.stmt ⟨s, span⟩ (rebuildStmt span s)

/-- The statement with its parts transformed. A declaration statement takes the span that its
transformed declaration has; all others keep their own. -/
def rebuildStmt (span : Span) : Stmt → m (Located Stmt)
  | .block body => return ⟨.block (← onStmts body), span⟩
  | .ifThen c s => return ⟨.ifThen (← t.onExpr c) (← onStmt s), span⟩
  | .ifElse c s e => return ⟨.ifElse (← t.onExpr c) (← onStmt s) (← onStmt e), span⟩
  | .loop c body => return ⟨.loop (← t.onExpr c) (← onStmt body), span⟩
  | .print value => return ⟨.print (← t.onExpr value), span⟩
  | .assign target value => return ⟨.assign (← t.ident target) (← t.onExpr value), span⟩
  | .arrayAssign target index value =>
    return ⟨.arrayAssign (← t.ident target) (← t.onExpr index) (← t.onExpr value), span⟩
  | .varDecl decl => return (← t.onVarDecl ⟨decl, span⟩).map .varDecl

def onStmts : List (Located Stmt) → m (List (Located Stmt))
  | [] => pure []
  | s :: ss => return (← onStmt s) :: (← onStmts ss)

end

def rebuildFormal (f : Formal) : m Formal := return ⟨← t.ty f.ty, ← t.ident f.name⟩

def onFormal (f : Located Formal) : m (Located Formal) :=
  t.formal f do return ⟨← t.rebuildFormal f.node, f.span⟩

def rebuildMethodDecl (d : MethodDecl) : m MethodDecl :=
  return ⟨← t.ty d.returnType, ← t.ident d.name, ← onList t.onFormal d.formals, ← t.onStmts d.body,
    ← t.onExpr d.returnExpr⟩

def onMethodDecl (d : Located MethodDecl) : m (Located MethodDecl) :=
  t.methodDecl d do return ⟨← t.rebuildMethodDecl d.node, d.span⟩

def onParent : Option Ident → m (Option Ident)
  | none => pure none
  | some parent => return some (← t.ident parent)

def rebuildClassDecl (c : ClassDecl) : m ClassDecl :=
  return ⟨← t.ident c.name, ← t.onParent c.parent, ← onList t.onVarDecl c.fields,
    ← onList t.onMethodDecl c.methods⟩

def onClassDecl (c : Located ClassDecl) : m (Located ClassDecl) :=
  t.classDecl c do return ⟨← t.rebuildClassDecl c.node, c.span⟩

def rebuildMainClass (c : MainClass) : m MainClass :=
  return ⟨← t.ident c.name, ← t.ident c.args, ← t.onStmt c.body⟩

def onMainClass (c : Located MainClass) : m (Located MainClass) :=
  t.mainClass c do return ⟨← t.rebuildMainClass c.node, c.span⟩

def rebuildProgram (p : Program) : m Program :=
  return ⟨← t.onMainClass p.mainClass, ← onList t.onClassDecl p.classes⟩

def onProgram (p : Located Program) : m (Located Program) :=
  t.program p do return ⟨← t.rebuildProgram p.node, p.span⟩

/-- Transform a node through the hook for its sort. -/
def onNode : Node → m Node
  | .program p => return .program (← t.onProgram p)
  | .mainClass c => return .mainClass (← t.onMainClass c)
  | .classDecl c => return .classDecl (← t.onClassDecl c)
  | .varDecl d => return .varDecl (← t.onVarDecl d)
  | .methodDecl d => return .methodDecl (← t.onMethodDecl d)
  | .formal f => return .formal (← t.onFormal f)
  | .ty ty => return .ty (← t.ty ty)
  | .stmt s => return .stmt (← t.onStmt s)
  | .expr e => return .expr (← t.onExpr e)
  | .ident i => return .ident (← t.ident i)

/-- Transform the parts of a node and leave its own hook out. Types and names, which have no parts,
stay as they are. -/
def rebuildNode : Node → m Node
  | .program p => return .program ⟨← t.rebuildProgram p.node, p.span⟩
  | .mainClass c => return .mainClass ⟨← t.rebuildMainClass c.node, c.span⟩
  | .classDecl c => return .classDecl ⟨← t.rebuildClassDecl c.node, c.span⟩
  | .varDecl d => return .varDecl ⟨← t.rebuildVarDecl d.node, d.span⟩
  | .methodDecl d => return .methodDecl ⟨← t.rebuildMethodDecl d.node, d.span⟩
  | .formal f => return .formal ⟨← t.rebuildFormal f.node, f.span⟩
  | .ty ty => return .ty ty
  | .stmt s => return .stmt (← t.rebuildStmt s.span s.node)
  | .expr e => return .expr ⟨← t.rebuildExpr e.node, e.span⟩
  | .ident i => return .ident i

end Transform

end MiniJava
