import MiniJava.Syntax.Stmt

/-!
Frames: a construct with one hole. Filling frames one after the other builds deep trees; all that a
frame adds lies at the span of the tree that fills it.
-/
namespace MiniJava

/-- An expression with one hole; the other operands are the variable `w`. -/
inductive ExprFrame where
  | leftOf (op : BinaryOp)
  | rightOf (op : BinaryOp)
  | array
  | index
  | length
  | receiver
  | arg
  | newArray
  | not
  deriving DecidableEq

namespace ExprFrame

def fill (frame : ExprFrame) (e : Located Expr) : Located Expr :=
  let w : Located Expr := ⟨.var "w", e.span⟩
  let m : Ident := ⟨"m", e.span⟩
  let node : Expr := match frame with
    | .leftOf op => .binary op e w
    | .rightOf op => .binary op w e
    | .array => .lookup e w
    | .index => .lookup w e
    | .length => .length e
    | .receiver => .call e m []
    | .arg => .call w m [e]
    | .newArray => .newArray e
    | .not => .not e
  ⟨node, e.span⟩

end ExprFrame

/-- A statement with one hole; conditions are the variable `w`, and the other branch prints `0`. -/
inductive StmtFrame where
  | block
  | loop
  | onlyBranch
  | thenBranch
  | elseBranch
  deriving DecidableEq

namespace StmtFrame

def fill (frame : StmtFrame) (s : Located Stmt) : Located Stmt :=
  let w : Located Expr := ⟨.var "w", s.span⟩
  let zero : Located Stmt := ⟨.print ⟨.int 0, s.span⟩, s.span⟩
  let node : Stmt := match frame with
    | .block => .block [s]
    | .loop => .loop w s
    | .onlyBranch => .ifThen w s
    | .thenBranch => .ifElse w s zero
    | .elseBranch => .ifElse w zero s
  ⟨node, s.span⟩

end StmtFrame

end MiniJava
