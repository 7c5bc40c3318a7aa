import MiniJava.Config
import MiniJava.Layout.Line
import MiniJava.Tree.Syntax

/-!
Outlines: a line for every located piece of syntax of a node, each one level deeper than the piece
it is part of.
-/
namespace MiniJava

/-- The construct of the node, and the value or name of a leaf. -/
def Node.heading (n : Node) : String :=
  match n with
  | .expr ⟨.int value, _⟩ => n.construct.name ++ " " ++ toString value.toInt
  | .expr ⟨.var name, _⟩ => n.construct.name ++ " " ++ name
  | .ty ⟨.named name, _⟩ => n.construct.name ++ " " ++ name
  | .ident ⟨name, _⟩ => n.construct.name ++ " " ++ name
  | _ => n.construct.name

namespace Outline

/-- The heading, and the place where the node starts if locations are shown. -/
def entry (showLocations : Bool) (n : Node) : String :=
  if showLocations then n.heading ++ " @" ++ n.span.start.text else n.heading

mutual

/-- A line for every node of the tree, in preorder. -/
def lines (showLocations : Bool) : Tree Node → List Line
  | .node n parts => .code 0 (entry showLocations n) :: Lines.nest (linesList showLocations parts)

def linesList (showLocations : Bool) : List (Tree Node) → List Line
  | [] => []
  | t :: ts => lines showLocations t ++ linesList showLocations ts

end

end Outline

/-- Takes nodes one after the other and appends their outlines to its output. -/
structure Outliner where
  config : Config := {}
  /-- How deep the next outline is nested. -/
  level : Nat := 0
  output : String := ""

def Outliner.visit (o : Outliner) (n : Node) : Outliner :=
  let lines := Outline.lines o.config.showLocations n.tree
  { o with output := o.output ++ Lines.text o.config.indentWidth o.level lines }

def Node.outline (n : Node) (config : Config := {}) : String :=
  (({ config := config } : Outliner).visit n).output

end MiniJava
