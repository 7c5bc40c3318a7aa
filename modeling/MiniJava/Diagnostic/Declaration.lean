import MiniJava.Diagnostic.Basic
import MiniJava.Event
import MiniJava.Syntax.Stmt

/-!
Building declarations from a list of names. A list without names is refused with a diagnostic at the
type, and the refusal is an event.
-/
namespace MiniJava

/-- Building a piece of syntax, which may be refused and leaves events. -/
abbrev Build := EStateM Diagnostic Trace

/-- The diagnostic for a declaration of the type that names nothing. -/
def Diagnostic.emptyDeclaration (ty : Located Ty) : Diagnostic :=
  ({ kind := .emptyDeclaration
     message := "declaration of type '" ++ ty.node.text ++ "' names no variables" } : Diagnostic)
    |>.withSpan ty.span
    |>.withHelp "a declaration must introduce at least one identifier"

/-- A declaration of the names in their order; it takes at least one. -/
def VarDecl.build (ty : Located Ty) (ids : List Ident) : Build VarDecl :=
  match VarDecl.ofList? ty ids with
  | some decl => pure decl
  | none => do
    modify (·.push (.emptyDeclaration ty.span))
    throw (.emptyDeclaration ty)

/-- A declaration statement of the names in their order; it takes at least one. -/
def Stmt.buildVarDecl (ty : Located Ty) (ids : List Ident) (span : Span) : Build (Located Stmt) :=
  return ⟨.varDecl (← VarDecl.build ty ids), span⟩

end MiniJava
