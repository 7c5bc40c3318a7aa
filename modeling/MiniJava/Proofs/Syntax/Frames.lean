import MiniJava.Layout.Expr
import MiniJava.Proofs.Syntax.Names
import MiniJava.Proofs.Tree.Parts
import MiniJava.Syntax.Frame

/-!
Trees in frames. What is written around an expression depends on nothing of it but its binding
strength, a condition on names that the frames satisfy is one on the names of the tree inside, and
the tree stands as many levels deep as there are frames.
-/
namespace MiniJava

open MiniJava.Tree

namespace ExprFrame

/-! ## Text -/

/-- The binding strength that the hole demands. -/
def demanded : ExprFrame → Nat
  | .leftOf op => op.precedence
  | .rightOf op => op.precedence + 1
  | .array | .length | .receiver => Expr.postfixPrecedence
  | .not => Expr.unaryPrecedence
  | .index | .arg | .newArray => 0

/-- The binding strength of the filled frame. -/
def precedence : ExprFrame → Nat
  | .leftOf op | .rightOf op => op.precedence
  | .array | .index | .length | .receiver | .arg => Expr.postfixPrecedence
  | .newArray | .not => Expr.unaryPrecedence

def before : ExprFrame → String
  | .leftOf _ | .array | .length | .receiver => ""
  | .rightOf op => "w " ++ op.symbol ++ " "
  | .index => "w["
  | .arg => "w.m("
  | .newArray => "new int["
  | .not => "!"

def after : ExprFrame → String
  | .leftOf op => " " ++ op.symbol ++ " w"
  | .rightOf _ | .not => ""
  | .array => "[w]"
  | .index | .newArray => "]"
  | .length => ".length"
  | .receiver => ".m()"
  | .arg => ")"

variable (frame : ExprFrame) (e : Located Expr)

theorem precedence_fill : (frame.fill e).node.precedence = frame.precedence := by
  cases frame <;> rfl

theorem parenthesize_zero (actual : Nat) (text : String) : parenthesize 0 actual text = text := rfl

/-- A name binds tighter than any place demands. -/
theorem text_var_parenthesized (demanded : Nat) (name : String)
    (h : demanded ≤ Expr.atomPrecedence) :
    parenthesize demanded (Expr.var name).precedence name = name :=
  if_neg (Nat.not_lt.mpr h)

theorem text_fill :
    (frame.fill e).node.text =
      frame.before ++ parenthesize frame.demanded e.node.precedence e.node.text ++ frame.after := by
  have hpostfix := text_var_parenthesized Expr.postfixPrecedence "w" (by decide)
  cases frame with
  | leftOf op =>
      have hw := text_var_parenthesized (op.precedence + 1) "w" (by cases op <;> decide)
      simp [fill, Expr.text, before, after, demanded, hw, String.append_assoc]
  | rightOf op =>
      have hw := text_var_parenthesized op.precedence "w" (by cases op <;> decide)
      simp [fill, Expr.text, before, after, demanded, hw]
  | index | arg =>
      simp [fill, Expr.text, Expr.texts, commaSeparated, before, after, demanded, hpostfix,
        parenthesize_zero]
  | _ =>
      simp [fill, Expr.text, Expr.texts, commaSeparated, before, after, demanded,
        parenthesize_zero, String.append_assoc]

theorem parenthesize_eq (demanded actual : Nat) (text : String) :
    parenthesize demanded actual text =
      (if actual < demanded then "(" else "") ++ text ++ if actual < demanded then ")" else "" := by
  unfold parenthesize
  split <;> simp

/-- However many frames an expression is put in, its own text stands in the text of the whole, and
the binding strength of the expression decides what stands around it. -/
theorem exists_text_frames (frames : List ExprFrame) (strength : Nat) :
    ∃ before after : String, ∀ e : Located Expr, e.node.precedence = strength →
      (frames.foldl (fun e frame => frame.fill e) e).node.text =
        before ++ e.node.text ++ after := by
  -- The innermost frame comes first, and the rest see it by its own binding strength alone.
  induction frames generalizing strength with
  | nil => exact ⟨"", "", fun e _ => by simp⟩
  | cons frame frames ih =>
      obtain ⟨before, after, htext⟩ := ih frame.precedence
      refine ⟨before ++ frame.before ++ if strength < frame.demanded then "(" else "",
        (if strength < frame.demanded then ")" else "") ++ frame.after ++ after, fun e he => ?_⟩
      rw [List.foldl_cons, htext _ (frame.precedence_fill e), text_fill, parenthesize_eq, he]
      simp only [String.append_assoc]

/-! ## Names -/

variable {ok : String → Prop}

theorem allNames_fill (hw : ok "w") (hm : ok "m") :
    (frame.fill e).node.AllNames ok ↔ e.node.AllNames ok := by
  cases frame <;> simp [fill, Expr.AllNames, Expr.AllNamesList, hw, hm]

theorem allNames_frames (hw : ok "w") (hm : ok "m") (frames : List ExprFrame) (e : Located Expr) :
    (frames.foldl (fun e frame => frame.fill e) e).node.AllNames ok ↔ e.node.AllNames ok := by
  induction frames generalizing e with
  | nil => rfl
  | cons frame frames ih => exact (ih (frame.fill e)).trans (allNames_fill frame e hw hm)

end ExprFrame

namespace StmtFrame

variable {ok : String → Prop}

theorem allNames_fill (frame : StmtFrame) (s : Located Stmt) (hw : ok "w") :
    (frame.fill s).node.AllNames ok ↔ s.node.AllNames ok := by
  cases frame <;> simp [fill, Stmt.AllNames, Stmt.AllNamesList, Expr.AllNames, hw]

theorem allNames_frames (hw : ok "w") (frames : List StmtFrame) (s : Located Stmt) :
    (frames.foldl (fun s frame => frame.fill s) s).node.AllNames ok ↔ s.node.AllNames ok := by
  induction frames generalizing s with
  | nil => rfl
  | cons frame frames ih => exact (ih (frame.fill s)).trans (allNames_fill frame s hw)

end StmtFrame

/-! ## Depth -/

namespace Node

/-- Where one step makes a node part of another, so many steps take it so many levels down. -/
theorem exists_place_foldl {α β : Type} {node : β → Node} {fill : β → α → β}
    (hpart : ∀ b a, (node b).unified.PartOf (node (fill b a)).unified) (as : List α) (b : β) :
    ∃ above : List Node, above.length = as.length ∧
      (above, (node b).unified) ∈ (node (as.foldl fill b)).places := by
  induction as generalizing b with
  | nil => exact ⟨[], rfl, mem_places_iff.mpr ⟨.singleton _, rfl⟩⟩
  | cons a as ih =>
      obtain ⟨above, hlength, hplace⟩ := ih (fill b a)
      obtain ⟨hchain, hlast⟩ := mem_places_iff.mp hplace
      refine ⟨(node (fill b a)).unified :: above, congrArg (· + 1) hlength, ?_⟩
      rw [List.foldl_cons, mem_places_iff, List.getLast?_cons_cons]
      exact ⟨List.isChain_cons_cons.mpr ⟨hpart b a, hchain⟩, hlast⟩

end Node

theorem ExprFrame.partOf_fill (frame : ExprFrame) (e : Located Expr) :
    (Node.expr e).PartOf (.expr (frame.fill e)) := by
  cases frame <;> simp [fill, Node.PartOf, Node.parts, Node.partsOfExpr, Node.unified]

theorem ExprFrame.exists_place_frames (frames : List ExprFrame) (e : Located Expr) :
    ∃ above : List Node, above.length = frames.length ∧
      (above, .expr e) ∈
        (Node.expr (frames.foldl (fun e frame => frame.fill e) e)).places :=
  Node.exists_place_foldl (fun e frame => frame.partOf_fill e) frames e

/-- A statement in a frame is part of it as the node that it is: a declaration, if it is one. -/
theorem StmtFrame.partOf_fill (frame : StmtFrame) (s : Located Stmt) :
    (Node.stmt s).unified.PartOf (Node.stmt (frame.fill s)).unified := by
  cases frame <;>
    simp [fill, Node.PartOf, Node.parts, Node.partsOfStmt, Node.unified, Node.ofStmt]

theorem StmtFrame.exists_place_frames (frames : List StmtFrame) (s : Located Stmt) :
    ∃ above : List Node, above.length = frames.length ∧
      (above, (Node.stmt s).unified) ∈
        (Node.stmt (frames.foldl (fun s frame => frame.fill s) s)).places :=
  Node.exists_place_foldl (fun s frame => frame.partOf_fill s) frames s

end MiniJava
