import MiniJava.Config
import MiniJava.Event
import MiniJava.Layout.Node

/-!
A printer takes nodes one after the other and appends their source text to its output.
-/
namespace MiniJava

structure Printer where
  config : Config := {}
  /-- How deep whole lines are nested. -/
  level : Nat := 0
  output : String := ""
  trace : Trace := #[]

namespace Printer

/-- Append the node's source text. Printing a program is an event. -/
def visit (p : Printer) (n : Node) : Printer :=
  let trace := match n with
    | .program program => p.trace.push (.printingProgram program.node.classes.length)
    | _ => p.trace
  { p with
    output := p.output ++ n.layout.text p.config.indentWidth p.level
    trace := trace }

end Printer

def Node.text (n : Node) (config : Config := {}) : String :=
  (({ config := config } : Printer).visit n).output

end MiniJava
