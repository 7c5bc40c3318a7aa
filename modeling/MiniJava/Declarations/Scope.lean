import MiniJava.Declarations.Error
import MiniJava.Event

/-!
Scopes and the state of a check. A check keeps a stack of scopes, the class it is in, and the events
so far; it ends at the first name that is declared again in the innermost scope.
-/
namespace MiniJava

/-- The identifiers declared in a scope, each name once, in the order of their declarations. -/
abbrev Scope := List Ident

namespace Scope

/-- Where the scope declares the name. -/
def find? (scope : Scope) (name : String) : Option Span :=
  (List.find? (·.node == name) scope).map Located.span

end Scope

/-- Where a check stands: the open scopes, innermost first, and the class whose members it is
checking. -/
structure Checker where
  scopes : List Scope := []
  currentClass : Option String := none
  deriving DecidableEq

structure Session where
  checker : Checker := {}
  trace : Trace := #[]

/-- A check. The state of the session outlives an error. -/
abbrev CheckM := EStateM DeclarationError Session

namespace CheckM

def emit (event : Event) : CheckM Unit :=
  modify fun s => { s with trace := s.trace.push event }

/-- Run a check in a scope of its own, which is closed again whether the check succeeds or not. -/
def withScope (check : CheckM Unit) : CheckM Unit := fun s =>
  let opened := { s with checker.scopes := [] :: s.checker.scopes }
  let close (s : Session) : Session := { s with checker.scopes := s.checker.scopes.tail }
  match check opened with
  | .ok _ s => .ok () (close s)
  | .error e s => .error e (close s)

/-- Run a check as part of a class, and leave the class whether the check succeeds or not. -/
def inClass (name : String) (check : CheckM Unit) : CheckM Unit := fun s =>
  let leave (s : Session) : Session := { s with checker.currentClass := none }
  match check { s with checker.currentClass := some name } with
  | .ok _ s => .ok () (leave s)
  | .error e s => .error e (leave s)

/-- Run a check and hand over the error, if it ends in one. -/
def attempt (check : CheckM Unit) : StateM Session (Option DeclarationError) := fun s =>
  match check s with
  | .ok _ s => (none, s)
  | .error e s => (some e, s)

/-- Declare the identifier in the innermost scope; it is refused if that scope has the name already.
Nothing happens where no scope is open, which `declare` rules out. -/
def declareIn (id : Ident) : CheckM Unit := do
  match (← get).checker.scopes with
  | [] => pure ()
  | scope :: outer =>
    match scope.find? id.node with
    | some first => throw (.duplicateVariable id.node first id.span)
    | none =>
      emit (.declared id.node)
      modify fun s => { s with checker.scopes := (scope ++ [id]) :: outer }

def declareAll : List Ident → CheckM Unit
  | [] => pure ()
  | id :: ids => do declareIn id; declareAll ids

/-- Declare the identifiers in the innermost scope; where no scope is open, in one that ends with
them. -/
def declare (ids : List Ident) : CheckM Unit := do
  if (← get).checker.scopes.isEmpty then withScope (declareAll ids) else declareAll ids

end CheckM

end MiniJava
