import MiniJava.Proofs.Spans.Check
import MiniJava.Proofs.Spans.Layout
import MiniJava.Proofs.Spans.Outline
import MiniJava.Proofs.Spans.Query

/-!
Spans have no part in the meaning of a tree: whatever they are changed to, every result stays the
same but for the spans that are in it.
-/
namespace MiniJava

/-- Changing the spans of a tree, even to the same one, changes neither its source text nor its
outline without locations nor its tally; not what an expression is said to call and to use; and in
the errors of a program only the spans at which they are. -/
theorem Span.only_as_spans (g : Span → Span) :
    (∀ n : Node, (∀ config, (n.mapSpans g).text config = n.text config) ∧
      (∀ width, (n.mapSpans g).outline ⟨width, false⟩ = n.outline ⟨width, false⟩) ∧
      (n.mapSpans g).tally = n.tally) ∧
    (∀ e : Located Expr, let changed := (e.mapSpans Expr.mapSpans g).node
      changed.containsCalls = e.node.containsCalls ∧ changed.countCalls = e.node.countCalls ∧
        changed.vars = e.node.vars) ∧
    ∀ (p : Located Program) (s s' : Session),
      let errors := (p.node.checkAll s).1
      let changed := ((p.mapSpans Program.mapSpans g).node.checkAll s').1
      (changed = [] ↔ errors = []) ∧ changed = errors.map (DeclarationError.mapSpans g) := by
  refine ⟨fun n => ⟨n.text_mapSpans g, fun width => n.outline_mapSpans g rfl, n.tally_mapSpans g⟩,
    fun e => ⟨e.node.containsCalls_mapSpans g, e.node.countCalls_mapSpans g,
      e.node.vars_mapSpans g⟩, ?_⟩
  intro p s s' errors changed
  have h : changed = errors.map (DeclarationError.mapSpans g) := p.node.checkAll_mapSpans g s' s
  exact ⟨by rw [h, List.map_eq_nil_iff], h⟩

end MiniJava
