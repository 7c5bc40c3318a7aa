import MiniJava.Proofs.Grammar.Expr
import MiniJava.Syntax.Stmt

/-!
The grammar of types, variable declarations and statements. An `else` belongs to the nearest `if`
that has none: the branch before an `else` must not end in an `if` without one.
-/
namespace MiniJava

def Ty.tokens : Ty → List Token
  | .intArray => [.keyword .int, .symbol .leftBracket, .symbol .rightBracket]
  | .boolean => [.keyword .boolean]
  | .integer => [.keyword .int]
  | .named name => [.name name]

/-- `ty first, rest…;` as tokens. -/
def VarDecl.tokens (d : VarDecl) : List Token :=
  d.ty.node.tokens ++
    (Token.commas (d.idents.map fun id => [.name id.node]) ++ [.symbol .semicolon])

namespace Stmt

/-- `System.out.println(` as tokens. -/
def printHead : List Token :=
  [.keyword .system, .symbol .dot, .name "out", .symbol .dot, .name "println", .symbol .leftParen]

mutual

/-- The tokens are the statement. The flag says whether it ends in an `if` without `else`. -/
inductive Derives : Bool → List Token → Stmt → Prop where
  | block {ts body} :
      DerivesList ts body →
      Derives false (.symbol .leftBrace :: (ts ++ [.symbol .rightBrace])) (.block body)
  | ifThen {isOpen cs c cspan ts t s} :
      Expr.Derives 1 cs c → Derives isOpen ts t →
      Derives true (.keyword .if :: .symbol .leftParen :: (cs ++ .symbol .rightParen :: ts))
        (.ifThen ⟨c, cspan⟩ ⟨t, s⟩)
  | ifElse {isOpen cs c cspan ts t s us e u} :
      Expr.Derives 1 cs c → Derives false ts t → Derives isOpen us e →
      Derives isOpen
        (.keyword .if :: .symbol .leftParen :: (cs ++ .symbol .rightParen ::
          (ts ++ .keyword .else :: us)))
        (.ifElse ⟨c, cspan⟩ ⟨t, s⟩ ⟨e, u⟩)
  | loop {isOpen cs c cspan ts body s} :
      Expr.Derives 1 cs c → Derives isOpen ts body →
      Derives isOpen (.keyword .while :: .symbol .leftParen :: (cs ++ .symbol .rightParen :: ts))
        (.loop ⟨c, cspan⟩ ⟨body, s⟩)
  | print {ts value} :
      Expr.Derives 1 ts value.node →
      Derives false (printHead ++ (ts ++ [.symbol .rightParen, .symbol .semicolon])) (.print value)
  | assign {ts value} (target : Ident) :
      Expr.Derives 1 ts value.node →
      Derives false (.name target.node :: .symbol .assign :: (ts ++ [.symbol .semicolon]))
        (.assign target value)
  | arrayAssign {ts us index value} (target : Ident) :
      Expr.Derives 1 ts index.node → Expr.Derives 1 us value.node →
      Derives false
        (.name target.node :: .symbol .leftBracket :: (ts ++ .symbol .rightBracket ::
          .symbol .assign :: (us ++ [.symbol .semicolon])))
        (.arrayAssign target index value)
  | varDecl (decl : VarDecl) : Derives false decl.tokens (.varDecl decl)

inductive DerivesList : List Token → List (Located Stmt) → Prop where
  | nil : DerivesList [] []
  | cons {isOpen ts us s span ss} :
      Derives isOpen ts s → DerivesList us ss → DerivesList (ts ++ us) (⟨s, span⟩ :: ss)

end

/-- The tokens can start a statement. -/
def starts : List Token → Bool
  | .symbol .leftBrace :: _ | .name _ :: _ => true
  | .keyword k :: _ => k ∈ [.if, .while, .system, .int, .boolean]
  | _ => false

theorem starts_varDecl (d : VarDecl) (rest : List Token) : starts (d.tokens ++ rest) = true := by
  unfold VarDecl.tokens
  cases d.ty.node <;> rfl

theorem Derives.starts {isOpen : Bool} {ts : List Token} {s : Stmt} (h : Derives isOpen ts s)
    (rest : List Token) : starts (ts ++ rest) = true := by
  cases h with
  | varDecl d => exact starts_varDecl d rest
  | _ => rfl

theorem Derives.ne_nil {isOpen : Bool} {ts : List Token} {s : Stmt} (h : Derives isOpen ts s) :
    ts ≠ [] := by
  rintro rfl
  have hstarts := h.starts []
  simp [Stmt.starts] at hstarts

end Stmt

end MiniJava
