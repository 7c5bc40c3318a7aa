/-!
Lines of laid-out text. A line knows how deep it is nested and nothing of spaces; the width of a
level is chosen when the lines are written.
-/
namespace MiniJava

def spaces (n : Nat) : String := String.ofList (List.replicate n ' ')

/-- A line of text at a nesting depth, or a line that holds nothing at all. -/
inductive Line where
  | code (depth : Nat) (text : String)
  | blank
  deriving DecidableEq

namespace Line

def deeper : Line → Line
  | .code depth text => .code (depth + 1) text
  | .blank => .blank

def text (width level : Nat) : Line → String
  | .code depth text => spaces ((level + depth) * width) ++ text ++ "\n"
  | .blank => "\n"

end Line

namespace Lines

def nest (ls : List Line) : List Line := ls.map Line.deeper

def text (width level : Nat) (ls : List Line) : String :=
  String.join (ls.map (Line.text width level))

theorem text_cons (width level : Nat) (l : Line) (ls : List Line) :
    text width level (l :: ls) = l.text width level ++ text width level ls := String.join_cons

end Lines

end MiniJava
