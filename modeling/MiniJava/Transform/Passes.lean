import MiniJava.Transform.Basic
import MiniJava.Word

/-!
Ready-made transformations: renaming, simplifying expressions, moving declarations, and one that
keeps a log of the hooks it reaches.
-/
namespace MiniJava.Transform

def identity : Transform Id := {}

/-- The name, or the new one where it is the old one. -/
def renamed (old new name : String) : String := if name = old then new else name

/-- Rename a class wherever its name stands as an identifier or as a type. -/
def renameClass (old new : String) : Transform Id where
  ident i := i.map (renamed old new)
  ty t := t.map fun
    | .named name => .named (renamed old new name)
    | ty => ty

/-- Rename a variable wherever its name stands as an identifier or is used in an expression. -/
def renameVariable (old new : String) : Transform Id where
  ident i := i.map (renamed old new)
  expr _ rebuild := rebuild.map fun
    | .var name => .var (renamed old new name)
    | e => e

/-- `l < r` as `!(r < l + 1)`, all of it at the span given. -/
def flipComparison (span : Span) : Expr → Expr
  | .binary .lessThan l r =>
    let next : Located Expr := ⟨.binary .plus l ⟨.int 1, span⟩, span⟩
    .not ⟨.binary .lessThan r next, span⟩
  | e => e

/-- Replace every comparison by the negation of its converse. -/
def flipComparisons : Transform Id where
  expr _ rebuild :=
    let e : Located Expr := rebuild
    ⟨flipComparison e.span e.node, e.span⟩

/-- The value of a sum or product of two literals, unless it is too large for a literal. -/
def literalValue? : Expr → Option Int64
  | .binary .plus ⟨.int a, _⟩ ⟨.int b, _⟩ => Word.signed? (a.toInt + b.toInt)
  | .binary .times ⟨.int a, _⟩ ⟨.int b, _⟩ => Word.signed? (a.toInt * b.toInt)
  | _ => none

/-- Replace sums and products of literals by their values, from the inside out. -/
def foldConstants : Transform Id where
  expr _ rebuild := rebuild.map fun e =>
    match literalValue? e with
    | some value => .int value
    | none => e

def relocate (span : Span) : Transform Id where
  varDecl d _ := ⟨d.node, span⟩

/-- Replace every block of one statement by that statement. -/
def unwrapBlocks : Transform Id where
  stmt _ rebuild :=
    match (rebuild : Located Stmt) with
    | ⟨.block [s], _⟩ => s
    | s => s

/-- The nodes whose hooks were reached, in order, as they were before. -/
abbrev Log := Array Node

/-- Log every hook that is reached. Hooks for the kinds in `skip` leave the node and its parts
alone; names are given the suffix. -/
def logged (skip : NodeKind → Bool) (suffix : String) : Transform (StateM Log) :=
  let log (n : Node) : StateM Log Unit := modify (·.push n)
  let hook {α : Type} (node : Located α → Node) (x : Located α)
      (rebuild : StateM Log (Located α)) : StateM Log (Located α) := do
    log (node x)
    if skip (node x).kind then pure x else rebuild
  { program := hook .program
    mainClass := hook .mainClass
    classDecl := hook .classDecl
    varDecl := hook .varDecl
    methodDecl := hook .methodDecl
    formal := hook .formal
    stmt := hook .stmt
    expr := hook .expr
    ty := fun t => do
      log (.ty t)
      pure t
    ident := fun i => do
      log (.ident i)
      pure (i.map (· ++ suffix)) }

end MiniJava.Transform
