import MiniJava.Json.Basic
import MiniJava.Syntax.Node

/-!
Syntax as JSON. Records are objects; a construct that holds anything is an object with one member,
named for it, and one that holds nothing is a string.
-/
namespace MiniJava

def Location.encode (l : Location) : Json :=
  .object [("file", Json.ofString? l.file), ("line", .int l.line.toNat), ("column", .int l.column.toNat)]

def Span.encode (s : Span) : Json :=
  .object [("start", s.start.encode), ("end", s.stop.encode)]

def Json.located (node : Json) (span : Span) : Json :=
  .object [("node", node), ("span", span.encode)]

open Json (located tagged)

def encodeIdent (i : Ident) : Json := located (.object [("name", .string i.node)]) i.span

def Ty.encode : Ty → Json
  | .intArray => .string "IntArray"
  | .boolean => .string "Boolean"
  | .integer => .string "Integer"
  | .named name => tagged "Identifier" (.string name)

def encodeTy (t : Located Ty) : Json := located t.node.encode t.span

namespace Expr

mutual

def encode : Expr → Json
  | .binary op ⟨l, s⟩ ⟨r, t⟩ =>
    tagged op.name (.object [("left", located (encode l) s), ("right", located (encode r) t)])
  | .lookup ⟨a, s⟩ ⟨i, t⟩ =>
    tagged "ArrayLookup"
      (.object [("array", located (encode a) s), ("index", located (encode i) t)])
  | .length ⟨a, s⟩ => tagged "ArrayLength" (.object [("array", located (encode a) s)])
  | .call ⟨r, s⟩ method args =>
    tagged "Call" (.object [("receiver", located (encode r) s), ("method", encodeIdent method),
      ("args", .array (encodeList args))])
  | .int value => tagged "IntegerLiteral" (.int value.toInt)
  | .bool true => .string "True"
  | .bool false => .string "False"
  | .var name => tagged "IdentifierExp" (.string name)
  | .this => .string "This"
  | .newArray ⟨n, s⟩ => tagged "NewArray" (.object [("size", located (encode n) s)])
  | .newObject className => tagged "NewObject" (.object [("class_name", encodeIdent className)])
  | .not ⟨e, s⟩ => tagged "Not" (.object [("operand", located (encode e) s)])

def encodeList : List (Located Expr) → List Json
  | [] => []
  | ⟨e, s⟩ :: es => located (encode e) s :: encodeList es

end

end Expr

def encodeExpr (e : Located Expr) : Json := located e.node.encode e.span

def VarDecl.encode (d : VarDecl) : Json :=
  .object [("ty", encodeTy d.ty), ("identifiers", .array (d.idents.map encodeIdent))]

namespace Stmt

/-- The JSON of an `if`, whose `else` is null if there is none. -/
def encodeIf (condition thenBranch elseBranch : Json) : Json :=
  tagged "If" (.object [("condition", condition), ("then_branch", thenBranch),
    ("else_branch", elseBranch)])

mutual

def encode : Stmt → Json
  | .block body => tagged "Block" (.object [("statements", .array (encodeList body))])
  | .ifThen c ⟨t, s⟩ => encodeIf (encodeExpr c) (located (encode t) s) .null
  | .ifElse c ⟨t, s⟩ ⟨e, s'⟩ =>
    encodeIf (encodeExpr c) (located (encode t) s) (located (encode e) s')
  | .loop c ⟨body, s⟩ =>
    tagged "While" (.object [("condition", encodeExpr c), ("body", located (encode body) s)])
  | .print value => tagged "Print" (.object [("value", encodeExpr value)])
  | .assign target value =>
    tagged "Assign" (.object [("target", encodeIdent target), ("value", encodeExpr value)])
  | .arrayAssign target index value =>
    tagged "ArrayAssign" (.object [("target", encodeIdent target), ("index", encodeExpr index),
      ("value", encodeExpr value)])
  | .varDecl decl => tagged "VarDecl" decl.encode

def encodeList : List (Located Stmt) → List Json
  | [] => []
  | ⟨s, span⟩ :: ss => located (encode s) span :: encodeList ss

end

end Stmt

def encodeStmt (s : Located Stmt) : Json := located s.node.encode s.span

def encodeVarDecl (d : Located VarDecl) : Json := located d.node.encode d.span

def encodeFormal (f : Located Formal) : Json :=
  located (.object [("ty", encodeTy f.node.ty), ("name", encodeIdent f.node.name)]) f.span

def MethodDecl.encode (m : MethodDecl) : Json :=
  .object [("return_type", encodeTy m.returnType), ("name", encodeIdent m.name),
    ("formals", .array (m.formals.map encodeFormal)), ("body", .array (m.body.map encodeStmt)),
    ("return_expr", encodeExpr m.returnExpr)]

def encodeMethod (m : Located MethodDecl) : Json := located m.node.encode m.span

/-- A class with a parent and one without are two constructs. -/
def ClassDecl.encode (c : ClassDecl) : Json :=
  let fields := Json.array (c.fields.map encodeVarDecl)
  let methods := Json.array (c.methods.map encodeMethod)
  match c.parent with
  | none =>
    tagged "Simple" (.object [("name", encodeIdent c.name), ("fields", fields),
      ("methods", methods)])
  | some parent =>
    tagged "Extends" (.object [("name", encodeIdent c.name), ("parent", encodeIdent parent),
      ("fields", fields), ("methods", methods)])

def encodeClass (c : Located ClassDecl) : Json := located c.node.encode c.span

def encodeMainClass (c : Located MainClass) : Json :=
  located (.object [("name", encodeIdent c.node.name), ("args", encodeIdent c.node.args),
    ("body", encodeStmt c.node.body)]) c.span

def encodeProgram (p : Located Program) : Json :=
  located (.object [("main_class", encodeMainClass p.node.mainClass),
    ("classes", .array (p.node.classes.map encodeClass))]) p.span

def Node.encode : Node → Json
  | .program p => encodeProgram p
  | .mainClass c => encodeMainClass c
  | .classDecl c => encodeClass c
  | .varDecl d => encodeVarDecl d
  | .methodDecl m => encodeMethod m
  | .formal f => encodeFormal f
  | .ty t => encodeTy t
  | .stmt s => encodeStmt s
  | .expr e => encodeExpr e
  | .ident i => encodeIdent i

end MiniJava
