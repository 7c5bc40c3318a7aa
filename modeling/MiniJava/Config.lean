/-!
Options of the outputs that are laid out in lines.
-/
namespace MiniJava

structure Config where
  /-- Spaces per nesting level. -/
  indentWidth : Nat := 4
  /-- Outlines end each line with the place where the node starts. -/
  showLocations : Bool := false
  deriving DecidableEq

end MiniJava
