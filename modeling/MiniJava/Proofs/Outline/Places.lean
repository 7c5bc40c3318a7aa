import MiniJava.Proofs.Layout.Indentation
import MiniJava.Proofs.Outline.Lines
import MiniJava.Proofs.Spans.Text
import MiniJava.Proofs.Tree.Parts

/-!
The lines of an outline as text. Every node has a line, which starts with as many levels of spaces
as there are nodes that the node is part of; with locations each line ends with the place where its
node starts.
-/
namespace MiniJava

open Outline MiniJava.Tree

namespace Node

theorem heading_ne_empty (n : Node) : n.heading ≠ "" := by
  intro h
  have hlist : n.tag.text.toList = [] := by rw [← heading_eq_text, h]; rfl
  rw [Tag.toList_text, List.append_eq_nil_iff] at hlist
  exact n.tag.construct.name_letters.1 hlist.1

/-- An entry is on one line if the name in it is, and the file if there is a place in it. -/
theorem entry_full {showLocations : Bool} {n : Node} (hname : ∀ name ∈ n.name?, OneLine name)
    (hfile : showLocations = true → ∀ file ∈ n.span.start.file, OneLine file) (depth : Nat) :
    (Line.code depth (entry showLocations n)).Full := by
  have hheading : OneLine n.heading := (heading_legible hname depth).1
  cases showLocations with
  | false => exact ⟨n.heading_ne_empty, hheading⟩
  | true =>
      have hplace : OneLine n.span.start.text :=
        Location.notMem_text (by decide) (by decide) (hfile rfl)
      have hentry : OneLine (n.heading ++ " @" ++ n.span.start.text) := by
        simp [OneLine, hheading, hplace]
      exact ⟨by simp [entry], hentry⟩

/-- The line of a node is as deep as there are nodes above it. -/
theorem outline_eq_places (n : Node) (config : Config) :
    n.outline config = Lines.text config.indentWidth 0
      (n.places.map fun l => .code l.1.length (entry config.showLocations l.2)) := by
  have hlevels : n.tree.levels 0 = n.places.map fun l => (l.1.length, l.2) :=
    levels_eq_map_lineage [] n.tree
  rw [output_outline, hlevels, List.map_map]
  rfl

theorem outline_hasLines {n : Node} {config : Config} (hnames : n.AllNames OneLine)
    (hfiles : config.showLocations = true →
      ∀ m ∈ n.tree.preorder, ∀ file ∈ m.span.start.file, OneLine file) :
    HasLines (n.outline config) (n.places.map fun l =>
      spaces (l.1.length * config.indentWidth) ++ entry config.showLocations l.2) := by
  have hfull : Lines.AllFull
      (n.places.map fun l => .code l.1.length (entry config.showLocations l.2)) := by
    rw [Lines.AllFull, List.forall_mem_map]
    intro l hl
    have hmem : l.2 ∈ n.tree.preorder := lineage_map_snd [] n.tree ▸ List.mem_map_of_mem hl
    exact entry_full ((treeNames_tree n).mpr hnames l.2 hmem) (hfiles · l.2 hmem) l.1.length
  have hne : n.places ≠ [] := by
    rw [places, lineage_tree]
    exact List.cons_ne_nil _ _
  have hspaces : spaces (0 * config.indentWidth) = "" := by rw [Nat.zero_mul]; rfl
  have hlines := hfull.hasLines (mt List.map_eq_nil_iff.mp hne) config.indentWidth 0
  rw [← outline_eq_places] at hlines
  simpa only [List.map_map, Function.comp_def, hspaces, String.empty_append, Line.content]
    using hlines

/-- The outline of a node has a line for every node in it, in preorder, where below each node are
its parts. The places of the nodes are the chains of nodes, each a part of the next, that end in the
node. The line of a node starts with the spaces of as many levels as there are nodes above it, and
its heading follows; with locations the lines are the same, and each has the place where its node
starts after that. -/
theorem outline_line_per_node {n : Node} (hnames : n.AllNames fun name => '\n' ∉ name.toList)
    (width : Nat) :
    let line (l : List Node × Node) := spaces (l.1.length * width) ++ l.2.heading
    ((∀ m : Node, m.tree = .node m.unified (m.parts.map tree)) ∧
      n.places.map Prod.snd = n.tree.preorder ∧
      ∀ l, l ∈ n.places ↔ (l.2 :: l.1).IsChain PartOf ∧ (l.2 :: l.1).getLast? = some n.unified) ∧
    HasLines (n.outline { indentWidth := width }) (n.places.map line) ∧
    ((∀ m ∈ n.tree.preorder, ∀ file ∈ m.span.start.file, '\n' ∉ file.toList) →
      HasLines (n.outline { indentWidth := width, showLocations := true })
        (n.places.map fun l => line l ++ (" @" ++ l.2.span.start.text))) := by
  intro line
  let shown : Config := { indentWidth := width, showLocations := true }
  refine ⟨⟨tree_eq, lineage_map_snd [] n.tree, fun l => mem_places_iff⟩, ?_, fun hfiles => ?_⟩
  · have hhidden : ({ indentWidth := width } : Config).showLocations ≠ true := by simp
    exact outline_hasLines hnames fun h => absurd h hhidden
  · have hlines : HasLines (n.outline shown) _ := outline_hasLines hnames fun _ => hfiles
    simp only [entry, shown, if_true] at hlines
    simpa [line, String.append_assoc] using hlines

/-- `while (b) int x;`, where the declaration is one node, and its name is part of it. -/
theorem outline_line_per_node_loop :
    let on (column : UInt64) : Span := .single ⟨some "A.java", 1, column⟩
    let decl : Stmt := .varDecl (.single ⟨.integer, on 11⟩ ⟨"x", on 15⟩)
    let n : Node := .stmt ⟨.loop ⟨.var "b", on 8⟩ ⟨decl, on 11⟩, on 1⟩
    n.AllNames (fun name => '\n' ∉ name.toList) ∧
      HasLines (n.outline { indentWidth := 2 })
        ["While", "  IdentifierExp b", "  VarDecl", "    IntegerType", "    Identifier x"] ∧
      HasLines (n.outline { indentWidth := 2, showLocations := true })
        ["While @A.java:1:1", "  IdentifierExp b @A.java:1:8", "  VarDecl @A.java:1:11",
          "    IntegerType @A.java:1:11", "    Identifier x @A.java:1:15"] := by
  intro on decl n
  have hb : '\n' ∉ "b".toList := by decide
  have hx : '\n' ∉ "x".toList := by decide
  have hdecl : decl.AllNames fun name => '\n' ∉ name.toList :=
    ⟨trivial, fun id hid => List.mem_singleton.mp hid ▸ hx⟩
  have hnames : n.AllNames fun name => '\n' ∉ name.toList := ⟨hb, hdecl⟩
  have hfiles : ∀ m ∈ n.tree.preorder, ∀ file ∈ m.span.start.file, '\n' ∉ file.toList := by
    have hfile : ∀ m ∈ n.tree.preorder, m.span.start.file = some "A.java" := by decide
    intro m hm file h
    obtain rfl : "A.java" = file := Option.some.inj (hfile m hm ▸ h)
    decide
  obtain ⟨-, hhidden, hshown⟩ := outline_line_per_node hnames 2
  refine ⟨hnames, hhidden, ?_⟩
  convert hshown hfiles using 1
  decide

end Node

end MiniJava
