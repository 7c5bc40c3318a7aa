import MiniJava.Syntax.Node

/-!
Changing the spans of a tree and nothing else. Two trees are equal up to spans if they are equal
with all spans erased.
-/
namespace MiniJava

/-- The span of text that was not read from anywhere. -/
def Span.nowhere : Span := .single ⟨none, 0, 0⟩

/-- A piece of syntax that was not read from anywhere. -/
def Located.nowhere {α : Type} (node : α) : Located α := ⟨node, .nowhere⟩

def Located.respan {α : Type} (g : Span → Span) (x : Located α) : Located α := ⟨x.node, g x.span⟩

namespace Expr

mutual

/-- Change every span of the expression. -/
def mapSpans (g : Span → Span) : Expr → Expr
  | .binary op ⟨l, s⟩ ⟨r, t⟩ => .binary op ⟨mapSpans g l, g s⟩ ⟨mapSpans g r, g t⟩
  | .lookup ⟨a, s⟩ ⟨i, t⟩ => .lookup ⟨mapSpans g a, g s⟩ ⟨mapSpans g i, g t⟩
  | .length ⟨a, s⟩ => .length ⟨mapSpans g a, g s⟩
  | .call ⟨r, s⟩ method args => .call ⟨mapSpans g r, g s⟩ (method.respan g) (mapSpansList g args)
  | .int value => .int value
  | .bool value => .bool value
  | .var name => .var name
  | .this => .this
  | .newArray ⟨n, s⟩ => .newArray ⟨mapSpans g n, g s⟩
  | .newObject className => .newObject (className.respan g)
  | .not ⟨e, s⟩ => .not ⟨mapSpans g e, g s⟩

def mapSpansList (g : Span → Span) : List (Located Expr) → List (Located Expr)
  | [] => []
  | ⟨e, s⟩ :: es => ⟨mapSpans g e, g s⟩ :: mapSpansList g es

end

def erase (e : Expr) : Expr := e.mapSpans fun _ => .nowhere

end Expr

def VarDecl.mapSpans (g : Span → Span) (d : VarDecl) : VarDecl :=
  ⟨d.ty.respan g, d.first.respan g, d.rest.map (·.respan g)⟩

/-- Change every span of a located piece of syntax: its own and those inside. -/
def Located.mapSpans {α : Type} (f : (Span → Span) → α → α) (g : Span → Span) (x : Located α) :
    Located α := ⟨f g x.node, g x.span⟩

namespace Stmt

mutual

def mapSpans (g : Span → Span) : Stmt → Stmt
  | .block body => .block (mapSpansList g body)
  | .ifThen c ⟨t, s⟩ => .ifThen (c.mapSpans Expr.mapSpans g) ⟨mapSpans g t, g s⟩
  | .ifElse c ⟨t, s⟩ ⟨e, u⟩ =>
    .ifElse (c.mapSpans Expr.mapSpans g) ⟨mapSpans g t, g s⟩ ⟨mapSpans g e, g u⟩
  | .loop c ⟨body, s⟩ => .loop (c.mapSpans Expr.mapSpans g) ⟨mapSpans g body, g s⟩
  | .print value => .print (value.mapSpans Expr.mapSpans g)
  | .assign target value => .assign (target.respan g) (value.mapSpans Expr.mapSpans g)
  | .arrayAssign target index value =>
    .arrayAssign (target.respan g) (index.mapSpans Expr.mapSpans g) (value.mapSpans Expr.mapSpans g)
  | .varDecl decl => .varDecl (decl.mapSpans g)

def mapSpansList (g : Span → Span) : List (Located Stmt) → List (Located Stmt)
  | [] => []
  | ⟨s, span⟩ :: ss => ⟨mapSpans g s, g span⟩ :: mapSpansList g ss

end

end Stmt

theorem Stmt.mapSpansList_eq_map (g : Span → Span) (ss : List (Located Stmt)) :
    mapSpansList g ss = ss.map (·.mapSpans Stmt.mapSpans g) := by
  induction ss with
  | nil => rfl
  | cons s ss ih => rw [mapSpansList, ih, List.map_cons]; rfl

def Formal.mapSpans (g : Span → Span) (f : Formal) : Formal := ⟨f.ty.respan g, f.name.respan g⟩

def MethodDecl.mapSpans (g : Span → Span) (m : MethodDecl) : MethodDecl where
  returnType := m.returnType.respan g
  name := m.name.respan g
  formals := m.formals.map (·.mapSpans Formal.mapSpans g)
  body := Stmt.mapSpansList g m.body
  returnExpr := m.returnExpr.mapSpans Expr.mapSpans g

def ClassDecl.mapSpans (g : Span → Span) (c : ClassDecl) : ClassDecl where
  name := c.name.respan g
  parent := c.parent.map (·.respan g)
  fields := c.fields.map (·.mapSpans VarDecl.mapSpans g)
  methods := c.methods.map (·.mapSpans MethodDecl.mapSpans g)

def MainClass.mapSpans (g : Span → Span) (c : MainClass) : MainClass where
  name := c.name.respan g
  args := c.args.respan g
  body := c.body.mapSpans Stmt.mapSpans g

def Program.mapSpans (g : Span → Span) (p : Program) : Program where
  mainClass := p.mainClass.mapSpans MainClass.mapSpans g
  classes := p.classes.map (·.mapSpans ClassDecl.mapSpans g)

namespace Node

def mapSpans (g : Span → Span) : Node → Node
  | .program p => .program (p.mapSpans Program.mapSpans g)
  | .mainClass c => .mainClass (c.mapSpans MainClass.mapSpans g)
  | .classDecl c => .classDecl (c.mapSpans ClassDecl.mapSpans g)
  | .varDecl d => .varDecl (d.mapSpans VarDecl.mapSpans g)
  | .methodDecl m => .methodDecl (m.mapSpans MethodDecl.mapSpans g)
  | .formal f => .formal (f.mapSpans Formal.mapSpans g)
  | .ty t => .ty (t.respan g)
  | .stmt s => .stmt (s.mapSpans Stmt.mapSpans g)
  | .expr e => .expr (e.mapSpans Expr.mapSpans g)
  | .ident i => .ident (i.respan g)

def erase (n : Node) : Node := n.mapSpans fun _ => .nowhere

/-- The nodes differ at most in their spans. -/
def SameButSpans (n n' : Node) : Prop := n.erase = n'.erase

end Node

end MiniJava
