import MiniJava.Syntax.Expr

/-!
Expressions as source text, with parentheses only where the tree would otherwise be read another
way: around an operand that binds looser than its place demands.
-/
namespace MiniJava

/-- The text, in parentheses when the binding strength falls short of what its place demands. -/
def parenthesize (demanded actual : Nat) (text : String) : String :=
  if actual < demanded then "(" ++ text ++ ")" else text

def commaSeparated (texts : List String) : String := ", ".intercalate texts

namespace Expr

mutual

/-- The expression as source text. The right operand of a binary operator demands more than the
left one, since equal operators associate to the left. -/
def text : Expr → String
  | .binary op ⟨l, _⟩ ⟨r, _⟩ =>
    parenthesize op.precedence l.precedence (text l) ++ " " ++ op.symbol ++ " " ++
      parenthesize (op.precedence + 1) r.precedence (text r)
  | .lookup ⟨a, _⟩ ⟨i, _⟩ =>
    parenthesize postfixPrecedence a.precedence (text a) ++ "[" ++ text i ++ "]"
  | .length ⟨a, _⟩ => parenthesize postfixPrecedence a.precedence (text a) ++ ".length"
  | .call ⟨r, _⟩ method args =>
    parenthesize postfixPrecedence r.precedence (text r) ++ "." ++ method.node ++ "(" ++
      commaSeparated (texts args) ++ ")"
  | .int value => toString value.toInt
  | .bool true => "true"
  | .bool false => "false"
  | .var name => name
  | .this => "this"
  | .newArray ⟨n, _⟩ => "new int[" ++ text n ++ "]"
  | .newObject className => "new " ++ className.node ++ "()"
  | .not ⟨e, _⟩ => "!" ++ parenthesize unaryPrecedence e.precedence (text e)

def texts : List (Located Expr) → List String
  | [] => []
  | ⟨e, _⟩ :: es => text e :: texts es

end

end Expr

end MiniJava
