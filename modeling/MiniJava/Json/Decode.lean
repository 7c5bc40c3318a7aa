import MiniJava.Json.Record
import MiniJava.Syntax.Node

/-!
Syntax from JSON. The fields of a record are given in the order in which they are declared, which is
the order of the values when the record is written as an array.
-/
namespace MiniJava

open Json (PartReader readString readPosition readLiteral)

def Location.decode (j : Json) : Decode Location :=
  j.record "SourceLocation" 3 fun f =>
    (f.both (f.field? 0 "file" fun v _ => readString v)
      (f.both (f.field 1 "line" fun v _ => readPosition v)
        (f.field 2 "column" fun v _ => readPosition v))).map
      fun (file, line, column) => ⟨file, line, column⟩

def Span.decode (j : Json) : Decode Span :=
  j.record "Span" 2 fun f =>
    (f.both (f.field 0 "start" fun v _ => Location.decode v)
      (f.field 1 "end" fun v _ => Location.decode v)).map fun (start, stop) => ⟨start, stop⟩

def Json.readLocated {α : Type} (j : Json) (read : PartReader j α) : Decode (Located α) :=
  j.record "Located" 2 fun f =>
    (f.both (f.field 0 "node" read) (f.field 1 "span" fun v _ => Span.decode v)).map
      fun (node, span) => ⟨node, span⟩

def decodeIdent (j : Json) : Decode Ident :=
  j.readLocated fun v _ => v.record "Identifier" 1 fun f =>
    f.field 0 "name" fun v _ => readString v

/-- Read a list of identifiers, at least one. -/
def decodeIdents (j : Json) : Decode (Ident × List Ident) := do
  match ← j.list fun v _ => decodeIdent v with
  | [] => throw .noNames
  | first :: rest => return (first, rest)

def Ty.variants : List String := ["IntArray", "Boolean", "Integer", "Identifier"]

def Ty.decode (j : Json) : Decode Ty := do
  let t ← j.variant
  match t.name with
  | "IntArray" => t.bare .intArray
  | "Boolean" => t.bare .boolean
  | "Integer" => t.bare .integer
  | "Identifier" => return .named (← readString (← t.held).1)
  | name => throw (.unknownVariant name Ty.variants)

def decodeTy (j : Json) : Decode (Located Ty) := j.readLocated fun v _ => Ty.decode v

/-- The operator whose construct has the name. -/
def BinaryOp.ofName? : String → Option BinaryOp
  | "And" => some .and
  | "LessThan" => some .lessThan
  | "Plus" => some .plus
  | "Minus" => some .minus
  | "Times" => some .times
  | _ => none

def Expr.variants : List String :=
  ["And", "LessThan", "Plus", "Minus", "Times", "ArrayLookup", "ArrayLength", "Call",
    "IntegerLiteral", "True", "False", "IdentifierExp", "This", "NewArray", "NewObject", "Not"]

def Expr.decode (j : Json) : Decode Expr := do
  let t ← j.variant
  if let some op := BinaryOp.ofName? t.name then
    let ⟨v, _⟩ ← t.held
    return ← v.record "BinaryExpr" 2 fun f =>
      (f.both (f.field 0 "left" fun w _ => w.readLocated fun x _ => Expr.decode x)
        (f.field 1 "right" fun w _ => w.readLocated fun x _ => Expr.decode x)).map
        fun (left, right) => .binary op left right
  match t.name with
  | "ArrayLookup" =>
    let ⟨v, _⟩ ← t.held
    v.record "ArrayLookupExpr" 2 fun f =>
      (f.both (f.field 0 "array" fun w _ => w.readLocated fun x _ => Expr.decode x)
        (f.field 1 "index" fun w _ => w.readLocated fun x _ => Expr.decode x)).map
        fun (array, index) => .lookup array index
  | "ArrayLength" =>
    let ⟨v, _⟩ ← t.held
    v.record "ArrayLengthExpr" 1 fun f =>
      (f.field 0 "array" fun w _ => w.readLocated fun x _ => Expr.decode x).map .length
  | "Call" =>
    let ⟨v, _⟩ ← t.held
    v.record "CallExpr" 3 fun f =>
      (f.both (f.field 0 "receiver" fun w _ => w.readLocated fun x _ => Expr.decode x)
        (f.both (f.field 1 "method" fun w _ => decodeIdent w)
          (f.field 2 "args" fun w _ =>
            w.list fun x _ => x.readLocated fun y _ => Expr.decode y))).map
        fun (receiver, method, args) => .call receiver method args
  | "IntegerLiteral" => return .int (← readLiteral (← t.held).1)
  | "True" => t.bare (.bool true)
  | "False" => t.bare (.bool false)
  | "IdentifierExp" => return .var (← readString (← t.held).1)
  | "This" => t.bare .this
  | "NewArray" =>
    let ⟨v, _⟩ ← t.held
    v.record "NewArrayExpr" 1 fun f =>
      (f.field 0 "size" fun w _ => w.readLocated fun x _ => Expr.decode x).map .newArray
  | "NewObject" =>
    let ⟨v, _⟩ ← t.held
    v.record "NewObjectExpr" 1 fun f =>
      (f.field 0 "class_name" fun w _ => decodeIdent w).map .newObject
  | "Not" =>
    let ⟨v, _⟩ ← t.held
    v.record "NotExpr" 1 fun f =>
      (f.field 0 "operand" fun w _ => w.readLocated fun x _ => Expr.decode x).map .not
  | name => throw (.unknownVariant name Expr.variants)
termination_by sizeOf j
decreasing_by all_goals omega

def decodeExpr (j : Json) : Decode (Located Expr) := j.readLocated fun v _ => Expr.decode v

def VarDecl.decode (j : Json) : Decode VarDecl :=
  j.record "VarDecl" 2 fun f =>
    (f.both (f.field 0 "ty" fun v _ => decodeTy v)
      (f.field 1 "identifiers" fun v _ => decodeIdents v)).map
      fun (ty, first, rest) => ⟨ty, first, rest⟩

def decodeVarDecl (j : Json) : Decode (Located VarDecl) := j.readLocated fun v _ => VarDecl.decode v

def Stmt.variants : List String :=
  ["Block", "If", "While", "Print", "Assign", "ArrayAssign", "VarDecl"]

def Stmt.decode (j : Json) : Decode Stmt := do
  let t ← j.variant
  match t.name with
  | "Block" =>
    let ⟨v, _⟩ ← t.held
    v.record "BlockStmt" 1 fun f =>
      (f.field 0 "statements" fun w _ =>
        w.list fun x _ => x.readLocated fun y _ => Stmt.decode y).map .block
  | "If" =>
    let ⟨v, _⟩ ← t.held
    v.record "IfStmt" 3 fun f =>
      (f.both (f.field 0 "condition" fun w _ => decodeExpr w)
        (f.both (f.field 1 "then_branch" fun w _ => w.readLocated fun x _ => Stmt.decode x)
          (f.field? 2 "else_branch" fun w _ => w.readLocated fun x _ => Stmt.decode x))).map
        fun
        | (c, t, some e) => .ifElse c t e
        | (c, t, none) => .ifThen c t
  | "While" =>
    let ⟨v, _⟩ ← t.held
    v.record "WhileStmt" 2 fun f =>
      (f.both (f.field 0 "condition" fun w _ => decodeExpr w)
        (f.field 1 "body" fun w _ => w.readLocated fun x _ => Stmt.decode x)).map
        fun (c, body) => .loop c body
  | "Print" =>
    let ⟨v, _⟩ ← t.held
    v.record "PrintStmt" 1 fun f => (f.field 0 "value" fun w _ => decodeExpr w).map .print
  | "Assign" =>
    let ⟨v, _⟩ ← t.held
    v.record "AssignStmt" 2 fun f =>
      (f.both (f.field 0 "target" fun w _ => decodeIdent w)
        (f.field 1 "value" fun w _ => decodeExpr w)).map
        fun (target, value) => .assign target value
  | "ArrayAssign" =>
    let ⟨v, _⟩ ← t.held
    v.record "ArrayAssignStmt" 3 fun f =>
      (f.both (f.field 0 "target" fun w _ => decodeIdent w)
        (f.both (f.field 1 "index" fun w _ => decodeExpr w)
          (f.field 2 "value" fun w _ => decodeExpr w))).map
        fun (target, index, value) => .arrayAssign target index value
  | "VarDecl" => return .varDecl (← VarDecl.decode (← t.held).1)
  | name => throw (.unknownVariant name Stmt.variants)
termination_by sizeOf j
decreasing_by all_goals omega

def decodeStmt (j : Json) : Decode (Located Stmt) := j.readLocated fun v _ => Stmt.decode v

def decodeFormal (j : Json) : Decode (Located Formal) :=
  j.readLocated fun v _ => v.record "Formal" 2 fun f =>
    (f.both (f.field 0 "ty" fun w _ => decodeTy w)
      (f.field 1 "name" fun w _ => decodeIdent w)).map fun (ty, name) => ⟨ty, name⟩

def MethodDecl.decode (j : Json) : Decode MethodDecl :=
  j.record "MethodDecl" 5 fun f =>
    (f.both (f.field 0 "return_type" fun v _ => decodeTy v)
      (f.both (f.field 1 "name" fun v _ => decodeIdent v)
        (f.both (f.field 2 "formals" fun v _ => v.list fun w _ => decodeFormal w)
          (f.both (f.field 3 "body" fun v _ => v.list fun w _ => decodeStmt w)
            (f.field 4 "return_expr" fun v _ => decodeExpr v))))).map
      fun (returnType, name, formals, body, returnExpr) =>
        ⟨returnType, name, formals, body, returnExpr⟩

def decodeMethod (j : Json) : Decode (Located MethodDecl) :=
  j.readLocated fun v _ => MethodDecl.decode v

def ClassDecl.variants : List String := ["Simple", "Extends"]

def ClassDecl.decode (j : Json) : Decode ClassDecl := do
  let t ← j.variant
  match t.name with
  | "Simple" =>
    let ⟨v, _⟩ ← t.held
    v.record "SimpleClassDecl" 3 fun f =>
      (f.both (f.field 0 "name" fun w _ => decodeIdent w)
        (f.both (f.field 1 "fields" fun w _ => w.list fun x _ => decodeVarDecl x)
          (f.field 2 "methods" fun w _ => w.list fun x _ => decodeMethod x))).map
        fun (name, fields, methods) => ⟨name, none, fields, methods⟩
  | "Extends" =>
    let ⟨v, _⟩ ← t.held
    v.record "ExtendsClassDecl" 4 fun f =>
      (f.both (f.field 0 "name" fun w _ => decodeIdent w)
        (f.both (f.field 1 "parent" fun w _ => decodeIdent w)
          (f.both (f.field 2 "fields" fun w _ => w.list fun x _ => decodeVarDecl x)
            (f.field 3 "methods" fun w _ => w.list fun x _ => decodeMethod x)))).map
        fun (name, parent, fields, methods) => ⟨name, some parent, fields, methods⟩
  | name => throw (.unknownVariant name ClassDecl.variants)

def decodeClass (j : Json) : Decode (Located ClassDecl) := j.readLocated fun v _ => ClassDecl.decode v

def MainClass.decode (j : Json) : Decode MainClass :=
  j.record "MainClass" 3 fun f =>
    (f.both (f.field 0 "name" fun v _ => decodeIdent v)
      (f.both (f.field 1 "args" fun v _ => decodeIdent v)
        (f.field 2 "body" fun v _ => decodeStmt v))).map fun (name, args, body) => ⟨name, args, body⟩

def decodeMainClass (j : Json) : Decode (Located MainClass) :=
  j.readLocated fun v _ => MainClass.decode v

def Program.decode (j : Json) : Decode Program :=
  j.record "Program" 2 fun f =>
    (f.both (f.field 0 "main_class" fun v _ => decodeMainClass v)
      (f.field 1 "classes" fun v _ => v.list fun w _ => decodeClass w)).map
      fun (mainClass, classes) => ⟨mainClass, classes⟩

def decodeProgram (j : Json) : Decode (Located Program) := j.readLocated fun v _ => Program.decode v

def Node.decode (kind : NodeKind) (j : Json) : Decode Node :=
  match kind with
  | .program => return .program (← decodeProgram j)
  | .mainClass => return .mainClass (← decodeMainClass j)
  | .classDecl => return .classDecl (← decodeClass j)
  | .varDecl => return .varDecl (← decodeVarDecl j)
  | .methodDecl => return .methodDecl (← decodeMethod j)
  | .formal => return .formal (← decodeFormal j)
  | .ty => return .ty (← decodeTy j)
  | .stmt => return .stmt (← decodeStmt j)
  | .expr => return .expr (← decodeExpr j)
  | .ident => return .ident (← decodeIdent j)

end MiniJava
