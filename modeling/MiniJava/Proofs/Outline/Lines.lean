import MiniJava.Outline
import MiniJava.Proofs.Tree.Levels

/-!
The lines of an outline: one for every node of the tree, in preorder, at the depth of the node.
-/
namespace MiniJava.Outline

open MiniJava.Tree

/-- The line of a node at a depth. -/
def line (showLocations : Bool) (l : Nat × Node) : Line := .code l.1 (entry showLocations l.2)

theorem nest_map_line (showLocations : Bool) (ls : List (Nat × Node)) :
    Lines.nest (ls.map (line showLocations)) =
      (ls.map (Prod.map (· + 1) id)).map (line showLocations) := by
  rw [Lines.nest, List.map_map, List.map_map]
  rfl

mutual

theorem lines_eq_map (showLocations : Bool) :
    (t : Tree Node) → lines showLocations t = (t.levels 0).map (line showLocations)
  | .node n parts => by
      rw [lines, levels, List.map_cons, linesList_eq_map showLocations parts, nest_map_line,
        levelsList_succ]
      rfl

theorem linesList_eq_map (showLocations : Bool) :
    (ts : List (Tree Node)) →
    linesList showLocations ts = (levelsList 0 ts).map (line showLocations)
  | [] => by rw [linesList, levelsList, List.map_nil]
  | t :: ts => by
      rw [linesList, levelsList, List.map_append, lines_eq_map showLocations t,
        linesList_eq_map showLocations ts]

end

/-- An outline is written line by line from the nodes of the tree and their depths. -/
theorem output_outline (n : Node) (config : Config) :
    n.outline config =
      Lines.text config.indentWidth 0 ((n.tree.levels 0).map (line config.showLocations)) := by
  rw [← lines_eq_map]
  exact String.empty_append

example (s t : Span) :
    (Node.expr ⟨.not ⟨.var "x", s⟩, t⟩).outline = "Not\n    IdentifierExp x\n" := rfl

end MiniJava.Outline
