import MiniJava.Syntax.Node

/-!
The scopes of a program and the rules for the names declared in them, read off the tree without any
check running. Classes, methods and blocks are scopes; an `if` or a `while` is none, so what its
branches and its body declare belongs to the scope around it.
-/
namespace MiniJava

/-- No name is declared twice. -/
def DistinctNames (ids : List Ident) : Prop := (ids.map Located.node).Nodup

instance (ids : List Ident) : Decidable (DistinctNames ids) :=
  inferInstanceAs (Decidable (ids.map Located.node).Nodup)

namespace Stmt

/-- The identifiers that the statement declares in the scope it stands in, in source order. -/
def declared : Stmt → List Ident
  | .varDecl decl => decl.idents
  | .ifThen _ ⟨t, _⟩ => declared t
  | .ifElse _ ⟨t, _⟩ ⟨e, _⟩ => declared t ++ declared e
  | .loop _ ⟨body, _⟩ => declared body
  | .block _ | .print _ | .assign _ _ | .arrayAssign _ _ _ => []

def declaredList (ss : List (Located Stmt)) : List Ident := ss.flatMap (·.node.declared)

mutual

/-- What is declared in each block of the statement, at any depth. -/
def scopes : Stmt → List (List Ident)
  | .block body => declaredList body :: scopesList body
  | .ifThen _ ⟨t, _⟩ => scopes t
  | .ifElse _ ⟨t, _⟩ ⟨e, _⟩ => scopes t ++ scopes e
  | .loop _ ⟨body, _⟩ => scopes body
  | .varDecl _ | .print _ | .assign _ _ | .arrayAssign _ _ _ => []

def scopesList : List (Located Stmt) → List (List Ident)
  | [] => []
  | ⟨s, _⟩ :: ss => scopes s ++ scopesList ss

end

end Stmt

/-- A method is the scope of its formals and of the locals at the top of its body. -/
def MethodDecl.scopes (m : MethodDecl) : List (List Ident) :=
  (m.formals.map (·.node.name) ++ Stmt.declaredList m.body) :: Stmt.scopesList m.body

/-- A class is the scope of its fields. -/
def ClassDecl.scopes (c : ClassDecl) : List (List Ident) :=
  c.fields.flatMap (·.node.idents) :: c.methods.flatMap (·.node.scopes)

/-- The method of the main class is the scope of its argument and of the locals of its body. -/
def MainClass.scopes (c : MainClass) : List (List Ident) :=
  (c.args :: c.body.node.declared) :: c.body.node.scopes

def ClassDecl.methodNames (c : ClassDecl) : List Ident := c.methods.map (·.node.name)

namespace Program

def scopes (p : Program) : List (List Ident) :=
  p.mainClass.node.scopes ++ p.classes.flatMap (·.node.scopes)

/-- No name is declared twice where it must be unique. A name of an enclosing scope is free to be
declared again. -/
structure WellDeclared (p : Program) : Prop where
  classes : DistinctNames p.classNames
  methods : ∀ c ∈ p.classes, DistinctNames c.node.methodNames
  scopes : ∀ scope ∈ p.scopes, DistinctNames scope

instance (p : Program) : Decidable p.WellDeclared :=
  decidable_of_iff (DistinctNames p.classNames ∧
    (∀ c ∈ p.classes, DistinctNames c.node.methodNames) ∧ ∀ scope ∈ p.scopes, DistinctNames scope)
    ⟨fun h => ⟨h.1, h.2.1, h.2.2⟩, fun h => ⟨h.classes, h.methods, h.scopes⟩⟩

end Program

namespace Node

/-- The identifiers that the node declares in the scope it stands in. -/
def declared : Node → List Ident
  | .varDecl d => d.node.idents
  | .formal f => [f.node.name]
  | .stmt s => s.node.declared
  | .program _ | .mainClass _ | .classDecl _ | .methodDecl _ | .ty _ | .expr _ | .ident _ => []

/-- The node declares nothing in the scope it stands in: all its declarations are in scopes of its
own. -/
def isClosed : Node → Bool
  | .program _ | .mainClass _ | .classDecl _ | .methodDecl _ => true
  | .stmt s => s.node.isBlock
  | .varDecl _ | .formal _ | .ty _ | .expr _ | .ident _ => false

end Node

end MiniJava
