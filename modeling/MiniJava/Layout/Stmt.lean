import MiniJava.Layout.Expr
import MiniJava.Layout.Line
import MiniJava.Syntax.Stmt

/-!
Statements as lines of source text. A block that is the body of an `if`, `else` or `while` opens on
the line of that word; any other body goes on lines of its own, one level deeper. A body before an
`else` is given braces where the `else` would otherwise go to an `if` inside it.
-/
namespace MiniJava

/-- `ty a, b, c;` -/
def VarDecl.text (d : VarDecl) : String := d.ty.node.text ++ " " ++ commaSeparated d.names ++ ";"

/-- A header, and under it a body one level deeper, after an opening brace if it is braced. -/
def clause (header : String) (braced : Bool) (body : List Line) : List Line :=
  .code 0 (if braced then header ++ " \x7b" else header) :: Lines.nest body

def closing (braced : Bool) : List Line := if braced then [.code 0 "\x7d"] else []

/-- The lines of a statement that stands by itself: a block has its braces on lines of their own. -/
def standing (block : Bool) (body : List Line) : List Line :=
  if block then clause "\x7b" false body ++ closing true else body

namespace Stmt

mutual

/-- The lines of the statement inside a body: for a block those of its statements, without the
block's own braces. -/
def bodyLines : Stmt → List Line
  | .block body => linesList body
  | .ifThen ⟨c, _⟩ ⟨t, _⟩ =>
    clause ("if (" ++ c.text ++ ")") t.isBlock (bodyLines t) ++ closing t.isBlock
  | .ifElse ⟨c, _⟩ ⟨t, _⟩ ⟨e, _⟩ =>
    let braced := t.isBlock || t.endsInOpenIf
    clause ("if (" ++ c.text ++ ")") braced (bodyLines t) ++
      clause (if braced then "\x7d else" else "else") e.isBlock (bodyLines e) ++
        closing e.isBlock
  | .loop ⟨c, _⟩ ⟨body, _⟩ =>
    clause ("while (" ++ c.text ++ ")") body.isBlock (bodyLines body) ++ closing body.isBlock
  | .print value => [.code 0 ("System.out.println(" ++ value.node.text ++ ");")]
  | .assign target value => [.code 0 (target.node ++ " = " ++ value.node.text ++ ";")]
  | .arrayAssign target index value =>
    [.code 0 (target.node ++ "[" ++ index.node.text ++ "] = " ++ value.node.text ++ ";")]
  | .varDecl decl => [.code 0 decl.text]

/-- The lines of the statements one after the other, blocks in braces. -/
def linesList : List (Located Stmt) → List Line
  | [] => []
  | ⟨s, _⟩ :: ss => standing s.isBlock (bodyLines s) ++ linesList ss

end

def lines (s : Stmt) : List Line := standing s.isBlock (bodyLines s)

end Stmt

end MiniJava
