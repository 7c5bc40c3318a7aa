import MiniJava.Syntax.Program

/-!
Nodes: any located piece of syntax, seen as one type. The kind of a node is where in the grammar it
may stand, its construct is which rule it was built by.
-/
namespace MiniJava

inductive NodeKind where
  | program
  | mainClass
  | classDecl
  | varDecl
  | methodDecl
  | formal
  | ty
  | stmt
  | expr
  | ident
  deriving DecidableEq

/-- A located piece of syntax of any sort. A declaration statement is a `stmt`; `varDecl` is the
declaration of a field, or that inside a statement. -/
inductive Node where
  | program (p : Located Program)
  | mainClass (c : Located MainClass)
  | classDecl (c : Located ClassDecl)
  | varDecl (d : Located VarDecl)
  | methodDecl (m : Located MethodDecl)
  | formal (f : Located Formal)
  | ty (t : Located Ty)
  | stmt (s : Located Stmt)
  | expr (e : Located Expr)
  | ident (i : Ident)

inductive Construct where
  | program
  | mainClass
  | rootClass
  | derivedClass
  | varDecl
  | methodDecl
  | formal
  | intArrayType
  | booleanType
  | integerType
  | namedType
  | block
  | conditional
  | loop
  | print
  | assign
  | arrayAssign
  | binary (op : BinaryOp)
  | lookup
  | length
  | call
  | intLiteral
  | boolLiteral (value : Bool)
  | var
  | this
  | newArray
  | newObject
  | not
  | ident
  deriving DecidableEq

/-- The name shown for a construct in outlines and labels. -/
def Construct.name : Construct → String
  | .program => "Program"
  | .mainClass => "MainClass"
  | .rootClass => "ClassDeclSimple"
  | .derivedClass => "ClassDeclExtends"
  | .varDecl => "VarDecl"
  | .methodDecl => "MethodDecl"
  | .formal => "Formal"
  | .intArrayType => "IntArrayType"
  | .booleanType => "BooleanType"
  | .integerType => "IntegerType"
  | .namedType => "IdentifierType"
  | .block => "Block"
  | .conditional => "If"
  | .loop => "While"
  | .print => "Print"
  | .assign => "Assign"
  | .arrayAssign => "ArrayAssign"
  | .binary op => op.name
  | .lookup => "ArrayLookup"
  | .length => "ArrayLength"
  | .call => "Call"
  | .intLiteral => "IntegerLiteral"
  | .boolLiteral true => "True"
  | .boolLiteral false => "False"
  | .var => "IdentifierExp"
  | .this => "This"
  | .newArray => "NewArray"
  | .newObject => "NewObject"
  | .not => "Not"
  | .ident => "Identifier"

def Ty.construct : Ty → Construct
  | .intArray => .intArrayType
  | .boolean => .booleanType
  | .integer => .integerType
  | .named _ => .namedType

def Expr.construct : Expr → Construct
  | .binary op _ _ => .binary op
  | .lookup _ _ => .lookup
  | .length _ => .length
  | .call _ _ _ => .call
  | .int _ => .intLiteral
  | .bool value => .boolLiteral value
  | .var _ => .var
  | .this => .this
  | .newArray _ => .newArray
  | .newObject _ => .newObject
  | .not _ => .not

def Stmt.construct : Stmt → Construct
  | .block _ => .block
  | .ifThen _ _ | .ifElse _ _ _ => .conditional
  | .loop _ _ => .loop
  | .print _ => .print
  | .assign _ _ => .assign
  | .arrayAssign _ _ _ => .arrayAssign
  | .varDecl _ => .varDecl

/-- A class either stands alone or derives from a parent. -/
def ClassDecl.construct (c : ClassDecl) : Construct :=
  if c.parent.isSome then .derivedClass else .rootClass

namespace Node

def kind : Node → NodeKind
  | .program _ => .program
  | .mainClass _ => .mainClass
  | .classDecl _ => .classDecl
  | .varDecl _ => .varDecl
  | .methodDecl _ => .methodDecl
  | .formal _ => .formal
  | .ty _ => .ty
  | .stmt _ => .stmt
  | .expr _ => .expr
  | .ident _ => .ident

def span : Node → Span
  | .program p => p.span
  | .mainClass c => c.span
  | .classDecl c => c.span
  | .varDecl d => d.span
  | .methodDecl m => m.span
  | .formal f => f.span
  | .ty t => t.span
  | .stmt s => s.span
  | .expr e => e.span
  | .ident i => i.span

def construct : Node → Construct
  | .program _ => .program
  | .mainClass _ => .mainClass
  | .classDecl c => c.node.construct
  | .varDecl _ => .varDecl
  | .methodDecl _ => .methodDecl
  | .formal _ => .formal
  | .ty t => t.node.construct
  | .stmt s => s.node.construct
  | .expr e => e.node.construct
  | .ident _ => .ident

end Node

namespace Expr

/-- The construct's name, and the value or name that the expression itself holds. -/
def label (e : Expr) : String :=
  match e with
  | .int value => e.construct.name ++ " " ++ toString value.toInt
  | .var name => e.construct.name ++ " " ++ name
  | .call _ method _ => e.construct.name ++ " " ++ method.node
  | .newObject className => e.construct.name ++ " " ++ className.node
  | _ => e.construct.name

end Expr

namespace Stmt

/-- The construct's name, and the name or names that the statement itself holds. -/
def label (s : Stmt) : String :=
  match s with
  | .assign target _ => s.construct.name ++ " " ++ target.node
  | .arrayAssign target _ _ => s.construct.name ++ " " ++ target.node
  | .varDecl decl => s.construct.name ++ " " ++ ",".intercalate decl.names
  | _ => s.construct.name

end Stmt

end MiniJava
