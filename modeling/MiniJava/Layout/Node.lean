import MiniJava.Layout.Stmt
import MiniJava.Syntax.Node

/-!
Any node as source text: names, types, expressions and formal parameters within a line, all else as
whole lines.
-/
namespace MiniJava

/-- Text within a line, or whole lines. -/
inductive Layout where
  | inline (text : String)
  | lines (ls : List Line)

/-- The text at a nesting level. Text within a line is not indented. -/
def Layout.text (width level : Nat) : Layout → String
  | .inline text => text
  | .lines ls => Lines.text width level ls

/-- `ty name` -/
def Formal.text (f : Formal) : String := f.ty.node.text ++ " " ++ f.name.node

/-- A header line, the body one level deeper, and the closing brace. -/
def braces (header : String) (body : List Line) : List Line :=
  clause header true body ++ closing true

namespace MethodDecl

def header (m : MethodDecl) : String :=
  "public " ++ m.returnType.node.text ++ " " ++ m.name.node ++ "(" ++
    commaSeparated (m.formals.map (·.node.text)) ++ ")"

def lines (m : MethodDecl) : List Line :=
  braces m.header <|
    Stmt.linesList m.body ++ [.code 0 ("return " ++ m.returnExpr.node.text ++ ";")]

end MethodDecl

namespace ClassDecl

def header (c : ClassDecl) : String :=
  match c.parent with
  | some parent => "class " ++ c.name.node ++ " extends " ++ parent.node
  | none => "class " ++ c.name.node

/-- The lines of the methods. A blank line stands before each, except at the top of the class. -/
def methodLines (atTop : Bool) : List (Located MethodDecl) → List Line
  | [] => []
  | m :: ms => (if atTop then [] else [.blank]) ++ m.node.lines ++ methodLines false ms

def lines (c : ClassDecl) : List Line :=
  braces c.header <|
    c.fields.map (fun d => .code 0 d.node.text) ++ methodLines c.fields.isEmpty c.methods

end ClassDecl

def MainClass.lines (c : MainClass) : List Line :=
  braces ("class " ++ c.name.node) <|
    braces ("public static void main(String[] " ++ c.args.node ++ ")") c.body.node.lines

/-- The main class, then each class after a blank line. -/
def Program.lines (p : Program) : List Line :=
  p.mainClass.node.lines ++ p.classes.flatMap fun c => .blank :: c.node.lines

def Node.layout : Node → Layout
  | .program p => .lines p.node.lines
  | .mainClass c => .lines c.node.lines
  | .classDecl c => .lines c.node.lines
  | .varDecl d => .lines [.code 0 d.node.text]
  | .methodDecl m => .lines m.node.lines
  | .formal f => .inline f.node.text
  | .ty t => .inline t.node.text
  | .stmt s => .lines s.node.lines
  | .expr e => .inline e.node.text
  | .ident i => .inline i.node

end MiniJava
