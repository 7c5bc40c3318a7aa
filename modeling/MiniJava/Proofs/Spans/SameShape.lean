import MiniJava.Proofs.Syntax.Spans
import MiniJava.Query

/-!
Expressions of one shape are equal up to spans: with every span replaced by one and the same, they
are equal. They can be compared part by part, since what an expression holds besides its
subexpressions is its payload.
-/
namespace MiniJava

namespace Expr

/-- The expressions are built by one construct and hold the same literal or name, whatever their
subexpressions. -/
def samePayload : Expr → Expr → Bool
  | .int n, .int n' => n == n'
  | .var x, .var x' => x == x'
  | .newObject c, .newObject c' => c.node == c'.node
  | .call _ m _, .call _ m' _ => m.node == m'.node
  | a, b => a.construct == b.construct

mutual

theorem sameShape_iff (s : Span) : (a b : Expr) →
    (a.sameShape b ↔ a.mapSpans (fun _ => s) = b.mapSpans fun _ => s)
  | .binary op ⟨l, _⟩ ⟨r, _⟩, b => by
      cases b with
      | binary op' l' r' =>
          obtain ⟨l', _⟩ := l'
          obtain ⟨r', _⟩ := r'
          simp [sameShape, mapSpans, sameShape_iff s l l', sameShape_iff s r r', and_assoc]
      | _ => simp [sameShape, mapSpans]
  | .lookup ⟨a, _⟩ ⟨i, _⟩, b => by
      cases b with
      | lookup a' i' =>
          obtain ⟨a', _⟩ := a'
          obtain ⟨i', _⟩ := i'
          simp [sameShape, mapSpans, sameShape_iff s a a', sameShape_iff s i i']
      | _ => simp [sameShape, mapSpans]
  | .length ⟨a, _⟩, b => by
      cases b with
      | length a' =>
          obtain ⟨a', _⟩ := a'
          simp [sameShape, mapSpans, sameShape_iff s a a']
      | _ => simp [sameShape, mapSpans]
  | .call ⟨r, _⟩ m args, b => by
      cases b with
      | call r' m' args' =>
          obtain ⟨r', _⟩ := r'
          simp [sameShape, mapSpans, Located.respan, sameShape_iff s r r',
            sameShapeList_iff s args args', and_assoc, and_left_comm]
      | _ => simp [sameShape, mapSpans]
  | .int n, b => by cases b <;> simp [sameShape, mapSpans]
  | .bool v, b => by cases b <;> simp [sameShape, mapSpans]
  | .var x, b => by cases b <;> simp [sameShape, mapSpans]
  | .this, b => by cases b <;> simp [sameShape, mapSpans]
  | .newArray ⟨n, _⟩, b => by
      cases b with
      | newArray n' =>
          obtain ⟨n', _⟩ := n'
          simp [sameShape, mapSpans, sameShape_iff s n n']
      | _ => simp [sameShape, mapSpans]
  | .newObject c, b => by cases b <;> simp [sameShape, mapSpans, Located.respan]
  | .not ⟨e, _⟩, b => by
      cases b with
      | not e' =>
          obtain ⟨e', _⟩ := e'
          simp [sameShape, mapSpans, sameShape_iff s e e']
      | _ => simp [sameShape, mapSpans]

theorem sameShapeList_iff (s : Span) : (as bs : List (Located Expr)) →
    (sameShapeList as bs ↔ mapSpansList (fun _ => s) as = mapSpansList (fun _ => s) bs)
  | [], [] => by simp [sameShapeList]
  | [], ⟨_, _⟩ :: _ => by simp [sameShapeList, mapSpansList]
  | ⟨_, _⟩ :: _, [] => by simp [sameShapeList, mapSpansList]
  | ⟨a, _⟩ :: as, ⟨b, _⟩ :: bs => by
      simp [sameShapeList, mapSpansList, sameShape_iff s a b, sameShapeList_iff s as bs]

end

/-! ## Comparing part by part -/

/-- As many subexpressions, each of the shape of the other in its place. -/
def sameShapes (as bs : List (Located Expr)) : Bool :=
  as.length == bs.length && (as.zip bs).all fun (a, b) => a.node.sameShape b.node

@[simp] theorem sameShapes_nil : sameShapes [] [] = true := rfl

@[simp] theorem sameShapes_cons (a b : Located Expr) (as bs : List (Located Expr)) :
    sameShapes (a :: as) (b :: bs) = (a.node.sameShape b.node && sameShapes as bs) := by
  simp [sameShapes, Bool.and_left_comm]

theorem sameShapeList_eq (as bs : List (Located Expr)) :
    sameShapeList as bs = sameShapes as bs := by
  induction as generalizing bs with
  | nil => cases bs <;> rfl
  | cons a as ih =>
      cases bs with
      | nil => rfl
      | cons b bs => rw [sameShapes_cons, ← ih, sameShapeList]

/-- What the payload leaves out is in the subexpressions. -/
theorem sameShape_eq_parts (a b : Expr) :
    a.sameShape b = (a.samePayload b && sameShapes a.children b.children) := by
  cases a with
  | binary op l r =>
      cases b with
      | binary op' l' r' =>
          have hop : (Construct.binary op == .binary op') = (op == op') := by
            rw [Bool.eq_iff_iff, beq_iff_eq, beq_iff_eq, Construct.binary.injEq]
          simp [sameShape, samePayload, construct, children, hop, Bool.and_assoc]
      | _ => rfl
  | lookup a i =>
      cases b with
      | lookup a' i' => simp [sameShape, samePayload, construct, children]
      | _ => rfl
  | length a =>
      cases b with
      | length a' => simp [sameShape, samePayload, construct, children]
      | _ => rfl
  | call r m args =>
      cases b with
      | call r' m' args' =>
          simp [sameShape, samePayload, children, sameShapeList_eq, Bool.and_assoc]
      | _ => rfl
  | int n =>
      cases b with
      | int n' => simp [sameShape, samePayload, children]
      | _ => rfl
  | bool v =>
      cases b with
      | bool v' => cases v <;> cases v' <;> rfl
      | _ => rfl
  | var x =>
      cases b with
      | var x' => simp [sameShape, samePayload, children]
      | _ => rfl
  | this => cases b <;> rfl
  | newArray n =>
      cases b with
      | newArray n' => simp [sameShape, samePayload, construct, children]
      | _ => rfl
  | newObject c =>
      cases b with
      | newObject c' => simp [sameShape, samePayload, children]
      | _ => rfl
  | not e =>
      cases b with
      | not e' => simp [sameShape, samePayload, construct, children]
      | _ => rfl

/-! ## Equality up to spans -/

theorem sameShape_iff_mapSpans (s : Span) (a b : Located Expr) :
    a.node.sameShape b.node ↔
      a.mapSpans mapSpans (fun _ => s) = b.mapSpans mapSpans fun _ => s := by
  rw [sameShape_iff s, Located.mapSpans, Located.mapSpans, Located.mk.injEq]
  exact (and_iff_left rfl).symm

theorem sameShape_equivalence : Equivalence fun a b : Located Expr => a.node.sameShape b.node := by
  constructor
  · intro a
    exact (sameShape_iff_mapSpans .nowhere a a).mpr rfl
  · intro a b hab
    rw [sameShape_iff_mapSpans .nowhere] at hab ⊢
    exact hab.symm
  · intro a b c hab hbc
    rw [sameShape_iff_mapSpans .nowhere] at hab hbc ⊢
    exact hab.trans hbc

/-- Expressions have the same shape if and only if they are equal with every span replaced by one,
whichever that is. So it is an equivalence to have the same shape, and equal expressions do. To
compare shapes, their payloads are compared, and then their subexpressions if there are as many. -/
theorem sameShape_iff_equal_up_to_spans :
    (∀ (a b : Located Expr) (s : Span), a.node.sameShape b.node ↔
      a.mapSpans mapSpans (fun _ => s) = b.mapSpans mapSpans fun _ => s) ∧
    (Equivalence fun a b : Located Expr => a.node.sameShape b.node) ∧
    (∀ a b : Located Expr, a == b → a.node.sameShape b.node) ∧
    ∀ a b : Located Expr, a.node.sameShape b.node =
      (a.node.samePayload b.node && sameShapes a.node.children b.node.children) := by
  refine ⟨fun a b s => sameShape_iff_mapSpans s a b, sameShape_equivalence, ?_,
    fun a b => sameShape_eq_parts a.node b.node⟩
  intro a b h
  obtain rfl := beq_iff_eq.mp h
  exact sameShape_equivalence.refl a

end Expr

end MiniJava
