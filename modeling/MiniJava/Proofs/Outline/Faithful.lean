import MiniJava.Proofs.Outline.Rebuild
import MiniJava.Proofs.Spans.Outline

/-!
An outline without locations loses the spans of a node and nothing else: the text determines its
lines, the lines determine the tree of their headings, and the node can be put together from those.
-/
namespace MiniJava

open Outline MiniJava.Tree

namespace Outline

/-- The line of a tag at a depth. -/
def tagLine (l : Nat × Tag) : Line := .code l.1 l.2.text

theorem tagLine_injective : Function.Injective tagLine := by
  rintro ⟨depth, t⟩ ⟨depth', t'⟩ h
  obtain ⟨hdepth, htext⟩ := Line.code.inj h
  exact Prod.ext hdepth (Tag.text_injective htext)

theorem map_line (t : Tree Node) :
    (t.levels 0).map (line false) = ((t.map Node.tag).levels 0).map tagLine := by
  have hline (l : Nat × Node) : line false l = tagLine (l.map id Node.tag) :=
    congrArg (Line.code l.1) (Node.heading_eq_text l.2)
  rw [levels_map, List.map_map]
  exact congrArg (List.map · _) (funext hline)

end Outline

namespace Node

theorem lines_legible {n : Node} (h : n.AllNames fun name => '\n' ∉ name.toList) :
    ∀ l ∈ (n.tree.levels 0).map (line false), l.Legible := by
  intro l hl
  obtain ⟨⟨depth, m⟩, hm, rfl⟩ := List.mem_map.mp hl
  have hpre : m ∈ n.tree.preorder := levels_map_snd 0 n.tree ▸ List.mem_map_of_mem hm
  exact heading_legible ((treeNames_tree n).mpr h m hpre) depth

/-- Nodes of one kind have the same outline if and only if they are equal up to spans. A name with a
newline could pass for the line of another node, so there must be none. -/
theorem outline_eq_iff_sameButSpans {a b : Node} {config : Config} (hw : 1 ≤ config.indentWidth)
    (hl : config.showLocations = false) (hk : a.kind = b.kind)
    (ha : a.AllNames fun name => '\n' ∉ name.toList)
    (hb : b.AllNames fun name => '\n' ∉ name.toList) :
    a.outline config = b.outline config ↔ a.SameButSpans b := by
  constructor
  · intro h
    rw [output_outline, output_outline, hl] at h
    have hlines := Lines.text_inj hw (lines_legible ha) (lines_legible hb) h
    rw [map_line, map_line] at hlines
    have hlevels : (a.tree.map tag).levels 0 = (b.tree.map tag).levels 0 :=
      List.map_injective_iff.mpr tagLine_injective hlines
    have htags : a.tree.map tag = b.tree.map tag := levels_inj hlevels
    have hrebuild : some a.erase = some b.erase := by
      rw [← rebuild_tree, ← rebuild_tree, htags, hk]
    exact Option.some.inj hrebuild
  · intro h
    rw [← outline_mapSpans _ a hl, ← outline_mapSpans _ b hl]
    exact congrArg (Node.outline · config) h

/-- Two statements in one branch and one in each of two have the same headings in the same order;
the indentation tells them apart. -/
theorem outline_tells_else_apart :
    let print : Located Stmt := .nowhere (.print (.nowhere (.var "If")))
    let inOne : Node :=
      .stmt (.nowhere (.ifThen (.nowhere .this) (.nowhere (.block [print, print]))))
    let inEach : Node :=
      .stmt (.nowhere (.ifElse (.nowhere .this) (.nowhere (.block [print])) print))
    inOne.outline ≠ inEach.outline := by
  intro print inOne inEach h
  have hname : '\n' ∉ "If".toList := by decide
  have hone : inOne.AllNames fun name => '\n' ∉ name.toList := ⟨trivial, hname, hname, trivial⟩
  have heach : inEach.AllNames fun name => '\n' ∉ name.toList := ⟨trivial, ⟨hname, trivial⟩, hname⟩
  have hkind : inOne.kind = inEach.kind := rfl
  have hwidth : 1 ≤ ({} : Config).indentWidth := by decide
  have hsame : inOne.SameButSpans inEach :=
    (outline_eq_iff_sameButSpans hwidth rfl hkind hone heach).mp h
  have hstmt := Node.stmt.inj hsame
  cases hstmt

end Node

end MiniJava
