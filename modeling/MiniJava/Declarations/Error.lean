import MiniJava.Diagnostic.Basic
import MiniJava.Syntax.Expr

/-!
What is wrong with a declaration: a name is declared again where it must be unique.
-/
namespace MiniJava

/-- A declaration that repeats an earlier one: the earlier identifier and the repeated one. -/
inductive DeclarationError where
  | duplicateClass (name : String) (first duplicate : Span)
  | duplicateMethod (className name : String) (first duplicate : Span)
  /-- A field, a formal parameter or a local variable. -/
  | duplicateVariable (name : String) (first duplicate : Span)
  deriving DecidableEq

namespace DeclarationError

def name : DeclarationError → String
  | .duplicateClass name _ _ => name
  | .duplicateMethod _ name _ _ => name
  | .duplicateVariable name _ _ => name

def first : DeclarationError → Span
  | .duplicateClass _ first _ => first
  | .duplicateMethod _ _ first _ => first
  | .duplicateVariable _ first _ => first

def duplicate : DeclarationError → Span
  | .duplicateClass _ _ duplicate => duplicate
  | .duplicateMethod _ _ _ duplicate => duplicate
  | .duplicateVariable _ _ duplicate => duplicate

def message : DeclarationError → String
  | .duplicateClass name _ _ => "class '" ++ name ++ "' is already defined"
  | .duplicateMethod className name _ _ =>
    "method '" ++ name ++ "' is already defined in class '" ++ className ++ "'"
  | .duplicateVariable name _ _ => "variable '" ++ name ++ "' is already defined in this scope"

/-- The diagnostic at the repeated declaration, with a note on the first one. -/
def toDiagnostic (e : DeclarationError) : Diagnostic :=
  ({ kind := .duplicateDeclaration, message := e.message } : Diagnostic)
    |>.withSpan e.duplicate
    |>.withNote ("'" ++ e.name ++ "' was first declared at " ++ e.first.text)

end DeclarationError

end MiniJava
