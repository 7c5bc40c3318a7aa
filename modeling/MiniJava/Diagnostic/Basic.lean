import MiniJava.Position

/-!
Diagnostics: what is wrong, where, and what may help; and the report that lists several of them.
-/
namespace MiniJava

inductive DiagnosticKind where
  | emptyDeclaration
  | duplicateDeclaration
  deriving DecidableEq

def DiagnosticKind.text : DiagnosticKind → String
  | .emptyDeclaration => "empty declaration"
  | .duplicateDeclaration => "duplicate declaration"

/-- What a diagnostic may say beside its message. -/
structure Context where
  span : Option Span := none
  note : Option String := none
  help : Option String := none
  deriving DecidableEq

namespace Context

def withSpan (c : Context) (span : Span) : Context := { c with span := some span }

def withNote (c : Context) (note : String) : Context := { c with note := some note }

def withHelp (c : Context) (help : String) : Context := { c with help := some help }

end Context

structure Diagnostic where
  kind : DiagnosticKind
  message : String
  context : Context := {}
  deriving DecidableEq

namespace Diagnostic

def withSpan (d : Diagnostic) (span : Span) : Diagnostic :=
  { d with context := d.context.withSpan span }

def withNote (d : Diagnostic) (note : String) : Diagnostic :=
  { d with context := d.context.withNote note }

def withHelp (d : Diagnostic) (help : String) : Diagnostic :=
  { d with context := d.context.withHelp help }

/-- The span if there is one, kind and message on a line, then note and help on lines of their
own. -/
def text (d : Diagnostic) : String :=
  let place := match d.context.span with
    | some span => span.text ++ ": "
    | none => ""
  let note := match d.context.note with
    | some note => "\nnote: " ++ note
    | none => ""
  let help := match d.context.help with
    | some help => "\nhelp: " ++ help
    | none => ""
  place ++ d.kind.text ++ ": " ++ d.message ++ note ++ help

end Diagnostic

structure Report where
  diagnostics : List Diagnostic := []
  deriving DecidableEq

namespace Report

def add (r : Report) (d : Diagnostic) : Report := ⟨r.diagnostics ++ [d]⟩

def isEmpty (r : Report) : Bool := r.diagnostics.isEmpty

def count (r : Report) : Nat := r.diagnostics.length

/-- Every diagnostic on lines of its own, then their number; nothing for an empty report. -/
def text (r : Report) : String :=
  let lines := r.diagnostics.map fun d => "error: " ++ d.text ++ "\n"
  let total := if r.isEmpty then "" else "\n" ++ toString r.count ++ " error(s)"
  String.join lines ++ total

end Report

end MiniJava
