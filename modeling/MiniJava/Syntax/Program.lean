import MiniJava.Syntax.Stmt

/-!
Programs: a main class and a list of classes with fields and methods. A class with a parent and one
without share a type; the parent is optional.
-/
namespace MiniJava

structure Formal where
  ty : Located Ty
  name : Ident

/-- `public returnType name(formals) { body return returnExpr; }` -/
structure MethodDecl where
  returnType : Located Ty
  name : Ident
  formals : List (Located Formal)
  body : List (Located Stmt)
  returnExpr : Located Expr

/-- `class name extends parent { fields methods }` -/
structure ClassDecl where
  name : Ident
  parent : Option Ident
  fields : List (Located VarDecl)
  methods : List (Located MethodDecl)

/-- The class that holds `public static void main(String[] args)`. -/
structure MainClass where
  name : Ident
  args : Ident
  body : Located Stmt

structure Program where
  mainClass : Located MainClass
  classes : List (Located ClassDecl)

namespace Program

/-- The identifiers that name classes, the main class first, in source order. -/
def classNames (p : Program) : List Ident :=
  p.mainClass.node.name :: p.classes.map (·.node.name)

/-- The first class of the name; the main class is not among the candidates. -/
def findClass? (p : Program) (name : String) : Option (Located ClassDecl) :=
  p.classes.find? (·.node.name.node == name)

end Program

/-- The first method of the name in the class itself, parents aside. -/
def ClassDecl.findMethod? (c : ClassDecl) (name : String) : Option (Located MethodDecl) :=
  c.methods.find? (·.node.name.node == name)

end MiniJava
