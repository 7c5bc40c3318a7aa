import MiniJava.Syntax.Node

/-!
Conditions on the names of a tree: those of variables, methods and classes, wherever they are
declared or referred to.
-/
namespace MiniJava

variable (ok : String → Prop)

def Ty.AllNames : Ty → Prop
  | .named name => ok name
  | .intArray | .boolean | .integer => True

namespace Expr

mutual

/-- Every name in the expression satisfies the condition. -/
def AllNames : Expr → Prop
  | .binary _ ⟨l, _⟩ ⟨r, _⟩ => AllNames l ∧ AllNames r
  | .lookup ⟨a, _⟩ ⟨i, _⟩ => AllNames a ∧ AllNames i
  | .length ⟨a, _⟩ => AllNames a
  | .call ⟨r, _⟩ method args => AllNames r ∧ ok method.node ∧ AllNamesList args
  | .var name => ok name
  | .newArray ⟨n, _⟩ => AllNames n
  | .newObject className => ok className.node
  | .not ⟨e, _⟩ => AllNames e
  | .int _ | .bool _ | .this => True

def AllNamesList : List (Located Expr) → Prop
  | [] => True
  | ⟨e, _⟩ :: es => AllNames e ∧ AllNamesList es

end

end Expr

def VarDecl.AllNames (d : VarDecl) : Prop := d.ty.node.AllNames ok ∧ ∀ id ∈ d.idents, ok id.node

namespace Stmt

mutual

def AllNames : Stmt → Prop
  | .block body => AllNamesList body
  | .ifThen c ⟨t, _⟩ => c.node.AllNames ok ∧ AllNames t
  | .ifElse c ⟨t, _⟩ ⟨e, _⟩ => c.node.AllNames ok ∧ AllNames t ∧ AllNames e
  | .loop c ⟨body, _⟩ => c.node.AllNames ok ∧ AllNames body
  | .print value => value.node.AllNames ok
  | .assign target value => ok target.node ∧ value.node.AllNames ok
  | .arrayAssign target index value =>
    ok target.node ∧ index.node.AllNames ok ∧ value.node.AllNames ok
  | .varDecl decl => decl.AllNames ok

def AllNamesList : List (Located Stmt) → Prop
  | [] => True
  | ⟨s, _⟩ :: ss => AllNames s ∧ AllNamesList ss

end

end Stmt

def Formal.AllNames (f : Formal) : Prop := f.ty.node.AllNames ok ∧ ok f.name.node

structure MethodDecl.AllNames (m : MethodDecl) : Prop where
  returnType : m.returnType.node.AllNames ok
  name : ok m.name.node
  formals : ∀ f ∈ m.formals, f.node.AllNames ok
  body : Stmt.AllNamesList ok m.body
  returnExpr : m.returnExpr.node.AllNames ok

structure ClassDecl.AllNames (c : ClassDecl) : Prop where
  name : ok c.name.node
  parent : ∀ parent ∈ c.parent, ok parent.node
  fields : ∀ d ∈ c.fields, d.node.AllNames ok
  methods : ∀ m ∈ c.methods, m.node.AllNames ok

structure MainClass.AllNames (c : MainClass) : Prop where
  name : ok c.name.node
  args : ok c.args.node
  body : c.body.node.AllNames ok

structure Program.AllNames (p : Program) : Prop where
  mainClass : p.mainClass.node.AllNames ok
  classes : ∀ c ∈ p.classes, c.node.AllNames ok

/-- Every name in the node satisfies the condition. -/
def Node.AllNames : Node → Prop
  | .program p => p.node.AllNames ok
  | .mainClass c => c.node.AllNames ok
  | .classDecl c => c.node.AllNames ok
  | .varDecl d => d.node.AllNames ok
  | .methodDecl m => m.node.AllNames ok
  | .formal f => f.node.AllNames ok
  | .ty t => t.node.AllNames ok
  | .stmt s => s.node.AllNames ok
  | .expr e => e.node.AllNames ok
  | .ident i => ok i.node

end MiniJava
