/-!
Source positions: locations, the spans between them, and syntax that carries a span. A location is
ordered by its line, then by its column; the file takes no part in the order.
-/
namespace MiniJava

/-- A place in source text; `file` is absent for text that belongs to no file. -/
structure Location where
  file : Option String
  line : UInt64
  column : UInt64
  deriving DecidableEq

namespace Location

/-- The location comes earlier in the text: by line, within a line by column. -/
def Before (a b : Location) : Prop :=
  a.line < b.line ∨ a.line = b.line ∧ a.column < b.column

instance (a b : Location) : Decidable (a.Before b) :=
  inferInstanceAs (Decidable (a.line < b.line ∨ a.line = b.line ∧ a.column < b.column))

/-- `line:column`, after `file:` when there is a file. -/
def text (l : Location) : String :=
  let place := toString l.line.toNat ++ ":" ++ toString l.column.toNat
  match l.file with
  | some file => file ++ ":" ++ place
  | none => place

end Location

structure Span where
  start : Location
  stop : Location
  deriving DecidableEq

namespace Span

def single (l : Location) : Span := ⟨l, l⟩

/-- The smallest span that covers both; of two equal ends the first span gives its own. -/
def merge (a b : Span) : Span where
  start := if b.start.Before a.start then b.start else a.start
  stop := if a.stop.Before b.stop then b.stop else a.stop

/-- One location when the span starts where it stops, else both with a dash between. -/
def text (s : Span) : String :=
  if s.start = s.stop then s.start.text else s.start.text ++ "-" ++ s.stop.text

end Span

/-- A piece of syntax with the span it was read from. -/
structure Located (α : Type) where
  node : α
  span : Span
  deriving DecidableEq

def Located.map {α β : Type} (f : α → β) (x : Located α) : Located β := ⟨f x.node, x.span⟩

end MiniJava
