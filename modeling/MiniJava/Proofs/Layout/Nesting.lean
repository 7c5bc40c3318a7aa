import Mathlib.Data.List.Infix
import MiniJava.Outline
import MiniJava.Proofs.Layout.Steps

/-!
Printers and outliners that take nodes one after the other. Each node only adds to the output, what
it adds depends on the node, the level and the configuration alone, and after it the level is what
it was before; so the output for many nodes is that for each by itself, one after the other.
-/
namespace MiniJava

namespace Outliner

def write (o : Outliner) (text : String) : Outliner := { o with output := o.output ++ text }

/-- Write the line of a node, with the place where it starts if locations are shown. -/
def writeLine (o : Outliner) (n : Node) : Outliner :=
  let o := (o.write (spaces (o.level * o.config.indentWidth))).write n.heading
  let o := if o.config.showLocations then o.write (" @" ++ n.span.start.text) else o
  o.write "\n"

/-- Take the steps one level deeper. -/
def nested (o : Outliner) (steps : Outliner → Outliner) : Outliner :=
  let q := steps { o with level := o.level + 1 }
  { q with level := q.level - 1 }

mutual

def writeTree : Outliner → Tree Node → Outliner
  | o, .node n parts => (o.writeLine n).nested (writeTrees · parts)

def writeTrees : Outliner → List (Tree Node) → Outliner
  | o, [] => o
  | o, t :: ts => writeTrees (writeTree o t) ts

end

/-- Write the outline of the node one line at a time. -/
def writeNode (o : Outliner) (n : Node) : Outliner := o.writeTree n.tree

@[simp] theorem write_config (o : Outliner) (text : String) :
    (o.write text).config = o.config := rfl

theorem write_write (o : Outliner) (text text' : String) :
    (o.write text).write text' = o.write (text ++ text') := by
  rw [write, write, write, String.append_assoc]

/-- Write the lines at the level that the outliner is at. -/
def writeLines (o : Outliner) (ls : List Line) : Outliner :=
  o.write (Lines.text o.config.indentWidth o.level ls)

theorem writeLines_nil (o : Outliner) : o.writeLines [] = o := by
  rw [writeLines, write]
  exact congrArg (Outliner.mk _ _) String.append_empty

theorem writeLines_writeLines (o : Outliner) (ls ls' : List Line) :
    (o.writeLines ls).writeLines ls' = o.writeLines (ls ++ ls') := by
  rw [writeLines, writeLines, writeLines, Lines.text_append, ← write_write]
  rfl

theorem writeLine_eq (o : Outliner) (n : Node) :
    o.writeLine n = o.writeLines [.code 0 (Outline.entry o.config.showLocations n)] := by
  rw [writeLines, Lines.text_singleton, Line.text, Outline.entry, Nat.add_zero, writeLine]
  by_cases h : o.config.showLocations <;> simp [h, write_write, String.append_assoc]

/-- Coming back from a deeper level, the outliner is where it was. -/
theorem nested_eq {steps : Outliner → Outliner} (lines : Bool → List Line)
    (h : ∀ q : Outliner, steps q = q.writeLines (lines q.config.showLocations)) (o : Outliner) :
    o.nested steps = o.writeLines (Lines.nest (lines o.config.showLocations)) := by
  rw [nested, h, writeLines, writeLines, Lines.text_nest]
  rfl

mutual

theorem writeTree_eq : (t : Tree Node) → (o : Outliner) →
    o.writeTree t = o.writeLines (Outline.lines o.config.showLocations t)
  | .node n parts, o => by
      rw [writeTree, nested_eq (Outline.linesList · parts) (writeTrees_eq parts), writeLine_eq,
        writeLines_writeLines]
      rfl

theorem writeTrees_eq : (ts : List (Tree Node)) → (o : Outliner) →
    o.writeTrees ts = o.writeLines (Outline.linesList o.config.showLocations ts)
  | [], o => by rw [writeTrees, Outline.linesList, writeLines_nil]
  | t :: ts, o => by
      rw [writeTrees, Outline.linesList, writeTree_eq t, writeTrees_eq ts, ← writeLines_writeLines]
      rfl

end

theorem writeNode_eq_visit (o : Outliner) (n : Node) : o.writeNode n = o.visit n :=
  writeTree_eq n.tree o

end Outliner

/-! ## Many nodes -/

/-- Where each visit adds the text of its node, as long as a condition holds that visits keep, the
outputs along the way are the texts of the nodes so far, one after the other. -/
theorem outputs_eq_joins {σ : Type} {visit : σ → Node → σ} {output : σ → String}
    {text : Node → String} {keeps : σ → Prop}
    (hvisit : ∀ s n, keeps s → keeps (visit s n) ∧ output (visit s n) = output s ++ text n)
    (ns : List Node) (s : σ) (hs : keeps s) :
    (ns.scanl visit s).map output =
      ns.inits.map fun seen => output s ++ String.join (seen.map text) := by
  induction ns generalizing s with
  | nil => simp
  | cons n ns ih =>
      obtain ⟨hnext, houtput⟩ := hvisit s n hs
      rw [List.scanl_cons, List.map_cons, ih _ hnext, houtput, List.inits_cons, List.map_cons,
        List.map_map]
      simp [Function.comp_def, String.append_assoc]

namespace Node

theorem text_eq (n : Node) (config : Config) :
    n.text config = n.layout.text config.indentWidth 0 := String.empty_append

theorem outline_eq (n : Node) (config : Config) :
    n.outline config =
      Lines.text config.indentWidth 0 (Outline.lines config.showLocations n.tree) :=
  String.empty_append

/-- Whatever was printed before and at whatever level, the steps of a node go back to the level they
started at and append a text that depends on the node, the level and the configuration alone, and a
visit does the same; so it is with outlines. After each of many visits the output is the texts that
new printers or outliners with the configuration write for the nodes so far. -/
theorem visits_append :
    (∀ (p : Printer) (n : Node), p.writeNode n = p.visit n ∧
      (p.writeNode n).config = p.config ∧ (p.writeNode n).level = p.level ∧
      (p.writeNode n).output = p.output ++ n.layout.text p.config.indentWidth p.level) ∧
    (∀ (o : Outliner) (n : Node), o.writeNode n = o.visit n ∧
      (o.writeNode n).config = o.config ∧ (o.writeNode n).level = o.level ∧
      (o.writeNode n).output = o.output ++
        Lines.text o.config.indentWidth o.level (Outline.lines o.config.showLocations n.tree)) ∧
    ∀ (config : Config) (ns : List Node),
      (ns.scanl Printer.visit { config := config }).map Printer.output =
        ns.inits.map (fun seen => String.join (seen.map (Node.text · config))) ∧
      (ns.scanl Outliner.visit { config := config }).map Outliner.output =
        ns.inits.map (fun seen => String.join (seen.map (Node.outline · config))) := by
  refine ⟨fun p n => ?_, fun o n => ?_, fun config ns => ⟨?_, ?_⟩⟩
  · rw [Printer.writeNode_eq_visit]
    exact ⟨rfl, rfl, rfl, rfl⟩
  · rw [Outliner.writeNode_eq_visit]
    exact ⟨rfl, rfl, rfl, rfl⟩
  · have hvisit (p : Printer) (n : Node) (h : p.config = config ∧ p.level = 0) :
        ((p.visit n).config = config ∧ (p.visit n).level = 0) ∧
          (p.visit n).output = p.output ++ n.text config := by
      refine ⟨h, ?_⟩
      rw [n.text_eq, ← h.1, ← h.2]
      rfl
    simpa using outputs_eq_joins hvisit ns { config := config } ⟨rfl, rfl⟩
  · have hvisit (o : Outliner) (n : Node) (h : o.config = config ∧ o.level = 0) :
        ((o.visit n).config = config ∧ (o.visit n).level = 0) ∧
          (o.visit n).output = o.output ++ n.outline config := by
      refine ⟨h, ?_⟩
      rw [n.outline_eq, ← h.1, ← h.2]
      rfl
    simpa using outputs_eq_joins hvisit ns { config := config } ⟨rfl, rfl⟩

end Node

end MiniJava
