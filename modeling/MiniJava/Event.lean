import MiniJava.Position
import MiniJava.Text.Quoted

/-!
Events: what the passes report while they run, in the order in which it happens.
-/
namespace MiniJava

inductive Level where
  | debug
  | trace
  deriving DecidableEq

def Level.text : Level → String
  | .debug => "DEBUG"
  | .trace => "TRACE"

inductive Event where
  | emptyDeclaration (ty : Span)
  | checkingProgram (classes : Nat)
  | duplicatesFound (errors : Nat)
  | declared (name : String)
  | checkingMethod (className : Option String) (method : String)
  | printingProgram (classes : Nat)
  deriving DecidableEq

/-- Events in the order in which they happened. -/
abbrev Trace := Array Event

namespace Event

/-- Single names and methods are finer than whole programs. -/
def level : Event → Level
  | .declared _ | .checkingMethod _ _ => .trace
  | .emptyDeclaration _ | .checkingProgram _ | .duplicatesFound _ | .printingProgram _ => .debug

def message : Event → String
  | .emptyDeclaration _ => "rejecting variable declaration without names"
  | .checkingProgram _ => "checking declarations"
  | .duplicatesFound _ => "duplicate declarations found"
  | .declared _ => "declared"
  | .checkingMethod _ _ => "checking method"
  | .printingProgram _ => "pretty-printing program"

def fields : Event → List (String × String)
  | .emptyDeclaration ty => [("span", ty.text)]
  | .checkingProgram classes => [("classes", toString classes)]
  | .duplicatesFound errors => [("errors", toString errors)]
  | .declared name => [("name", name)]
  | .checkingMethod (some className) method =>
    [("class", "Some(" ++ Text.quoted className ++ ")"), ("method", method)]
  | .checkingMethod none method => [("class", "None"), ("method", method)]
  | .printingProgram classes => [("classes", toString classes)]

end Event

end MiniJava
