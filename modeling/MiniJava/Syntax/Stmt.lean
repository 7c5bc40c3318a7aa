import MiniJava.Syntax.Expr

/-!
Variable declarations and statements. A declaration has at least one name by its type, so that no
pass has to ask what an empty one means.
-/
namespace MiniJava

/-- `ty first, rest…;` with the names in source order. -/
structure VarDecl where
  ty : Located Ty
  first : Ident
  rest : List Ident
  deriving DecidableEq

namespace VarDecl

def idents (d : VarDecl) : List Ident := d.first :: d.rest

def names (d : VarDecl) : List String := d.idents.map Located.node

def single (ty : Located Ty) (id : Ident) : VarDecl := ⟨ty, id, []⟩

def ofList? (ty : Located Ty) : List Ident → Option VarDecl
  | [] => none
  | id :: ids => some ⟨ty, id, ids⟩

end VarDecl

/-- A statement. An `if` with and one without `else` are two constructs. -/
inductive Stmt where
  | block (body : List (Located Stmt))
  | ifThen (condition : Located Expr) (thenBranch : Located Stmt)
  | ifElse (condition : Located Expr) (thenBranch elseBranch : Located Stmt)
  | loop (condition : Located Expr) (body : Located Stmt)
  | print (value : Located Expr)
  | assign (target : Ident) (value : Located Expr)
  | arrayAssign (target : Ident) (index value : Located Expr)
  | varDecl (decl : VarDecl)

namespace Stmt

def children : Stmt → List (Located Stmt)
  | .block body => body
  | .ifThen _ t => [t]
  | .ifElse _ t e => [t, e]
  | .loop _ body => [body]
  | .print _ | .assign _ _ | .arrayAssign _ _ _ | .varDecl _ => []

/-- The expressions of the statement itself, in source order, without those of its substatements. -/
def exprs : Stmt → List (Located Expr)
  | .ifThen c _ | .ifElse c _ _ | .loop c _ => [c]
  | .print value | .assign _ value => [value]
  | .arrayAssign _ index value => [index, value]
  | .block _ | .varDecl _ => []

def isBlock : Stmt → Bool
  | .block _ => true
  | _ => false

/-- Written without braces, the statement ends in an `if` that has no `else`. -/
def endsInOpenIf : Stmt → Bool
  | .ifThen _ _ => true
  | .ifElse _ _ ⟨e, _⟩ => endsInOpenIf e
  | .loop _ ⟨body, _⟩ => endsInOpenIf body
  | .block _ | .print _ | .assign _ _ | .arrayAssign _ _ _ | .varDecl _ => false

end Stmt

end MiniJava
