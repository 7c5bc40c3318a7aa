import MiniJava.Proofs.Grammar.Stmt
import MiniJava.Syntax.Node

/-!
The grammar of methods, classes and programs, and of nodes of any kind.
-/
namespace MiniJava

/-- The tokens are the pieces one after the other. -/
inductive Sequence {α : Type} (derives : List Token → α → Prop) :
    List Token → List (Located α) → Prop where
  | nil : Sequence derives [] []
  | cons {ts us x xs} :
      derives ts x.node → Sequence derives us xs → Sequence derives (ts ++ us) (x :: xs)

theorem Sequence.flatMap {α β : Type} (derives : List Token → β → Prop)
    (g : Located α → List Token) (f : Located α → Located β) :
    (xs : List (Located α)) → (∀ x ∈ xs, derives (g x) (f x).node) →
      Sequence derives (xs.flatMap g) (xs.map f)
  | [], _ => .nil
  | x :: xs, h =>
      .cons (h x List.mem_cons_self)
        (flatMap derives g f xs fun y hy => h y (List.mem_cons_of_mem x hy))

/-- `ty name` as tokens. -/
def Formal.tokens (f : Formal) : List Token := f.ty.node.tokens ++ [.name f.name.node]

namespace MethodDecl

/-- `public returnType name(formals) {` as tokens, without the first word. -/
def headTokens (m : MethodDecl) : List Token :=
  m.returnType.node.tokens ++ .name m.name.node :: .symbol .leftParen ::
    (Token.commas (m.formals.map (·.node.tokens)) ++ [.symbol .rightParen, .symbol .leftBrace])

inductive Derives : List Token → MethodDecl → Prop where
  | intro {m ts us} :
      Stmt.DerivesList ts m.body → Expr.Derives 1 us m.returnExpr.node →
      Derives (.keyword .public :: (m.headTokens ++ (ts ++ .keyword .return ::
        (us ++ [.symbol .semicolon, .symbol .rightBrace])))) m

end MethodDecl

namespace ClassDecl

/-- `class name extends parent {` as tokens, without the first word. -/
def headTokens (c : ClassDecl) : List Token :=
  match c.parent with
  | some parent =>
    [.name c.name.node, .keyword .extends, .name parent.node, .symbol .leftBrace]
  | none => [.name c.name.node, .symbol .leftBrace]

inductive Derives : List Token → ClassDecl → Prop where
  | intro {c ts us} :
      Sequence (fun ts d => ts = d.tokens) ts c.fields →
      Sequence MethodDecl.Derives us c.methods →
      Derives (.keyword .class :: (c.headTokens ++ (ts ++ (us ++ [.symbol .rightBrace])))) c

end ClassDecl

namespace MainClass

/-- `public static void main(String[]` as tokens. -/
def mainHead : List Token :=
  [.keyword .public, .keyword .static, .keyword .void, .keyword .main, .symbol .leftParen,
    .keyword .string, .symbol .leftBracket, .symbol .rightBracket]

inductive Derives : List Token → MainClass → Prop where
  | intro {c ts isOpen} :
      Stmt.Derives isOpen ts c.body.node →
      Derives (.keyword .class :: .name c.name.node :: .symbol .leftBrace ::
        (mainHead ++ .name c.args.node :: .symbol .rightParen :: .symbol .leftBrace ::
          (ts ++ [.symbol .rightBrace, .symbol .rightBrace]))) c

end MainClass

inductive Program.Derives : List Token → Program → Prop where
  | intro {p ts us} :
      MainClass.Derives ts p.mainClass.node → Sequence ClassDecl.Derives us p.classes →
      Program.Derives (ts ++ us) p

/-- The tokens are the node. -/
def Node.Derives (ts : List Token) : Node → Prop
  | .program p => p.node.Derives ts
  | .mainClass c => c.node.Derives ts
  | .classDecl c => c.node.Derives ts
  | .varDecl d => ts = d.node.tokens
  | .methodDecl m => m.node.Derives ts
  | .formal f => ts = f.node.tokens
  | .ty t => ts = t.node.tokens
  | .stmt s => ∃ isOpen, s.node.Derives isOpen ts
  | .expr e => e.node.Derives 1 ts
  | .ident i => ts = [.name i.node]

end MiniJava
