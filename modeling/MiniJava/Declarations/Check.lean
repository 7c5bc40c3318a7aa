import MiniJava.Declarations.Scope
import MiniJava.Syntax.Node

/-!
Checking for duplicate declarations: class names in a program, method names in a class, and
variables within a scope. Classes, methods and blocks open scopes; the formals of a method and the
locals at the top of its body share one. A name of an enclosing scope may be declared again.
-/
namespace MiniJava

namespace Stmt

mutual

/-- Check the declarations of the statement in the scopes that are open. -/
def check : Stmt → CheckM Unit
  | .block body => CheckM.withScope (checkList body)
  | .ifThen _ ⟨t, _⟩ => check t
  | .ifElse _ ⟨t, _⟩ ⟨e, _⟩ => do check t; check e
  | .loop _ ⟨body, _⟩ => check body
  | .varDecl decl => CheckM.declare decl.idents
  | .print _ | .assign _ _ | .arrayAssign _ _ _ => pure ()

def checkList : List (Located Stmt) → CheckM Unit
  | [] => pure ()
  | ⟨s, _⟩ :: ss => do check s; checkList ss

end

end Stmt

namespace MethodDecl

def checkFormals : List (Located Formal) → CheckM Unit
  | [] => pure ()
  | f :: fs => do CheckM.declare [f.node.name]; checkFormals fs

/-- Check the method in a scope for its formals and the locals at the top of its body. -/
def check (m : MethodDecl) : CheckM Unit := do
  CheckM.emit (.checkingMethod (← get).checker.currentClass m.name.node)
  CheckM.withScope do checkFormals m.formals; Stmt.checkList m.body

end MethodDecl

namespace ClassDecl

def checkFields : List (Located VarDecl) → CheckM Unit
  | [] => pure ()
  | d :: ds => do CheckM.declare d.node.idents; checkFields ds

/-- Check each method, the name before the rest; `seen` holds the names of those before it. -/
def checkMethods (className : String) (seen : Scope) : List (Located MethodDecl) → CheckM Unit
  | [] => pure ()
  | m :: ms => do
    let name := m.node.name
    match seen.find? name.node with
    | some first => throw (.duplicateMethod className name.node first name.span)
    | none => m.node.check
    checkMethods className (seen ++ [name]) ms

def check (c : ClassDecl) : CheckM Unit :=
  CheckM.inClass c.name.node <| CheckM.withScope do
    checkFields c.fields
    checkMethods c.name.node [] c.methods

end ClassDecl

/-- Check the main class in a scope for its argument and the locals at the top of its body. -/
def MainClass.check (c : MainClass) : CheckM Unit :=
  CheckM.withScope do CheckM.declare [c.args]; c.body.node.check

namespace Program

/-- An error for each class name that repeats one of `seen` or an earlier one of the list. -/
def duplicateNames (seen : Scope) : List Ident → List DeclarationError
  | [] => []
  | id :: ids =>
    match seen.find? id.node with
    | some first => .duplicateClass id.node first id.span :: duplicateNames seen ids
    | none => duplicateNames (seen ++ [id]) ids

/-- An error for each class name that repeats an earlier one, the main class included. -/
def duplicateClassNames (p : Program) : List DeclarationError := duplicateNames [] p.classNames

def checkClasses : List (Located ClassDecl) → CheckM Unit
  | [] => pure ()
  | c :: cs => do c.node.check; checkClasses cs

/-- Check the class names, then the classes, up to the first error. -/
def check (p : Program) : CheckM Unit := do
  match p.duplicateClassNames with
  | error :: _ => throw error
  | [] =>
    p.mainClass.node.check
    checkClasses p.classes

/-- The first error of each class that has one. -/
def classErrors : List (Located ClassDecl) → StateM Session (List DeclarationError)
  | [] => pure []
  | c :: cs => do
    let error ← CheckM.attempt c.node.check
    return error.toList ++ (← classErrors cs)

/-- Every duplicate class name, then the first error of the main class and of each class, from a
fresh checker. -/
def checkAll (p : Program) : StateM Session (List DeclarationError) := do
  modify fun s => { s with trace := s.trace.push (.checkingProgram p.classes.length), checker := {} }
  let inMain ← CheckM.attempt p.mainClass.node.check
  let inClasses ← classErrors p.classes
  let errors := p.duplicateClassNames ++ inMain.toList ++ inClasses
  unless errors.isEmpty do
    modify fun s => { s with trace := s.trace.push (.duplicatesFound errors.length) }
  return errors

/-- The errors of `checkAll` as diagnostics; an empty report means that the program passed. -/
def report (p : Program) : StateM Session Report := do
  return (← p.checkAll).foldl (fun r e => r.add e.toDiagnostic) {}

end Program

/-- Check any node in the scopes that are open, up to the first error. -/
def Node.check : Node → CheckM Unit
  | .program p => p.node.check
  | .mainClass c => c.node.check
  | .classDecl c => c.node.check
  | .varDecl d => CheckM.declare d.node.idents
  | .methodDecl m => m.node.check
  | .formal f => CheckM.declare [f.node.name]
  | .stmt s => s.node.check
  | .ty _ | .expr _ | .ident _ => pure ()

end MiniJava
