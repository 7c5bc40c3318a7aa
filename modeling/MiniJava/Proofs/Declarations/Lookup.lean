import MiniJava.Proofs.Declarations.Acceptance
import MiniJava.Proofs.Syntax.Spans

/-!
Looking up a class or a method by its name. A lookup answers with the first element of the name; in
a program that passes the check there is no other, so every class and every method is found under
its name.
-/
namespace MiniJava

/-- Where no two elements have the same name, each is the first and the only one of its name. -/
theorem DistinctNames.find?_eq {α : Type} {name : α → Ident} {as before after : List α} {a : α}
    (h : DistinctNames (as.map name)) (has : as = before ++ a :: after) :
    as.find? (fun b => (name b).node == (name a).node) = some a ∧
      ∀ b ∈ before ++ after, (name b).node ≠ (name a).node := by
  have hnodup : (before.map (fun b => (name b).node) ++
      (name a).node :: after.map fun b => (name b).node).Nodup := by
    simpa [DistinctNames, has, Function.comp_def] using h
  obtain ⟨-, hafter, hbefore⟩ := List.nodup_append.mp hnodup
  have hother : ∀ b ∈ before ++ after, (name b).node ≠ (name a).node := by
    intro b hb
    rcases List.mem_append.mp hb with hb | hb
    · exact hbefore _ (List.mem_map_of_mem hb) _ List.mem_cons_self
    · intro hname
      exact (List.nodup_cons.mp hafter).1 (hname ▸ List.mem_map_of_mem hb)
  refine ⟨?_, hother⟩
  have hnone : before.find? (fun b => (name b).node == (name a).node) = none := by
    rw [List.find?_eq_none]
    intro b hb
    rw [beq_iff_eq]
    exact hother b (List.mem_append_left after hb)
  rw [has, List.find?_append, hnone, Option.none_or]
  exact List.find?_cons_of_pos (beq_self_eq_true (name a).node)

namespace Program

theorem findClass?_mainClass {p : Program} (h : DistinctNames p.classNames) :
    p.findClass? p.mainClass.node.name.node = none := by
  have hmain := (List.nodup_cons.mp h).1
  rw [findClass?, List.find?_eq_none]
  intro c hc hname
  rw [beq_iff_eq] at hname
  refine hmain (hname ▸ ?_)
  rw [List.map_map]
  exact List.mem_map_of_mem hc

/-- In a program in which the check finds no error, each class is found under its name, and each of
its methods in it, and nothing else has that name; the main class is not found. -/
theorem lookups_faithful (p : Located Program) (s : Session) (h : (p.node.checkAll s).1 = []) :
    (∀ before c after, p.node.classes = before ++ c :: after →
      p.node.findClass? c.node.name.node = some c ∧
        (∀ c' ∈ before ++ after, c'.node.name.node ≠ c.node.name.node) ∧
        ∀ before m after, c.node.methods = before ++ m :: after →
          c.node.findMethod? m.node.name.node = some m ∧
            ∀ m' ∈ before ++ after, m'.node.name.node ≠ m.node.name.node) ∧
    p.node.findClass? p.node.mainClass.node.name.node = none := by
  have hp : p.node.WellDeclared := (p.node.checkAll_eq_nil s).mp h
  have hnames : DistinctNames (p.node.classes.map (·.node.name)) := (List.nodup_cons.mp hp.classes).2
  refine ⟨?_, findClass?_mainClass hp.classes⟩
  intro before c after hclasses
  have hc : c ∈ p.node.classes := by
    rw [hclasses]
    exact List.mem_append_right before List.mem_cons_self
  obtain ⟨hfind, hother⟩ := hnames.find?_eq hclasses
  refine ⟨hfind, hother, ?_⟩
  intro before m after hmethods
  exact (hp.methods c hc).find?_eq hmethods

/-- A class overrides a method of its parent, and every scope declares the same variable. -/
theorem lookups_faithful_overriding :
    let method (name : String) (body : List (Located Stmt)) : Located MethodDecl :=
      .nowhere ⟨.nowhere .integer, .nowhere name, [], body, .nowhere .this⟩
    let x : Located Stmt := .nowhere (.varDecl (.single (.nowhere .integer) (.nowhere "x")))
    let run := method "run" [x, .nowhere (.block [x])]
    let stop := method "stop" [x]
    let base : Located ClassDecl := .nowhere ⟨.nowhere "Base", none, [], [run]⟩
    let derived : Located ClassDecl :=
      .nowhere ⟨.nowhere "Derived", some (.nowhere "Base"), [], [stop, run]⟩
    let main : Located MainClass := .nowhere ⟨.nowhere "Main", .nowhere "x", .nowhere (.block [x])⟩
    let p : Program := ⟨main, [base, derived]⟩
    (p.checkAll {}).1 = [] ∧ p.findClass? "Derived" = some derived ∧
      derived.node.findMethod? "run" = some run ∧ p.findClass? "Main" = none := by
  intro method x run stop base derived main p
  have hpasses : (p.checkAll {}).1 = [] := (p.checkAll_eq_nil {}).mpr (by decide)
  obtain ⟨hclasses, hmain⟩ := lookups_faithful (.nowhere p) {} hpasses
  obtain ⟨hderived, -, hmethods⟩ := hclasses [base] derived [] rfl
  exact ⟨hpasses, hderived, (hmethods [stop] run [] rfl).1, hmain⟩

end Program

end MiniJava
