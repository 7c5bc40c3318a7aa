import MiniJava.Proofs.Transform.Declarations

/-!
What the ready-made transformations bring about. Most put something in the place of a node once its
parts have been transformed, so what they make of one node, with parts that they are done with,
decides what they make of a whole tree: the tree is of a certain form everywhere, and a tree that is
of that form already is left as it is.
-/
namespace MiniJava

open Node MiniJava.Tree

/-! ## Forms of trees -/

namespace Node

/-- The condition holds of every node in the tree of the node. -/
def Everywhere (ok : Node → Prop) (n : Node) : Prop := ∀ m ∈ n.tree.preorder, ok m

variable {ok : Node → Prop} {n : Node}

theorem everywhere_iff : n.Everywhere ok ↔ ok n.unified ∧ ∀ p ∈ n.parts, p.Everywhere ok := by
  simp only [Everywhere, preorder_unfold tree_eq n, List.forall_mem_cons, List.forall_mem_flatMap]

theorem everywhere_declStmt (d : Located VarDecl) :
    (Node.stmt (d.map .varDecl)).Everywhere ok ↔ (Node.varDecl d).Everywhere ok := by
  rw [Everywhere, Everywhere, tree_declStmt]

theorem Everywhere.callParts (h : n.Everywhere ok) : ∀ p ∈ n.callParts, p.Everywhere ok := by
  cases hn : n.isDeclStmt with
  | true =>
      obtain ⟨d, rfl⟩ := exists_eq_varDecl hn
      exact List.forall_mem_singleton.mpr ((everywhere_declStmt d).mp h)
  | false =>
      rw [callParts_eq_parts hn]
      exact (everywhere_iff.mp h).2

theorem Everywhere.of_callParts (hself : n.isDeclStmt = false → ok n)
    (h : ∀ p ∈ n.callParts, p.Everywhere ok) : n.Everywhere ok := by
  cases hn : n.isDeclStmt with
  | true =>
      obtain ⟨d, rfl⟩ := exists_eq_varDecl hn
      exact (everywhere_declStmt d).mpr (List.forall_mem_singleton.mp h)
  | false =>
      rw [everywhere_iff, unified_eq_self hn, ← callParts_eq_parts hn]
      exact ⟨hself hn, h⟩

end Node

/-! ## From the bottom up -/

/-- What to put in the place of a node, by its sort. -/
structure Rewrite where
  ident : Ident → Ident
  ty : Located Ty → Located Ty
  stmt : Located Stmt → Located Stmt
  expr : Located Expr → Located Expr

namespace Rewrite

variable (r : Rewrite)

def node : Node → Node
  | .ident i => .ident (r.ident i)
  | .ty t => .ty (r.ty t)
  | .stmt s => .stmt (r.stmt s)
  | .expr e => .expr (r.expr e)
  | n => n

/-- The transformation that rewrites every node once its parts have been transformed. -/
def bottomUp : Transform Id where
  ident := r.ident
  ty := r.ty
  stmt _ rebuild := r.stmt rebuild
  expr _ rebuild := r.expr rebuild

theorem onNode_bottomUp (n : Node) : r.bottomUp.onNode n = r.node (r.bottomUp.rebuildNode n) := by
  cases n with
  | stmt s =>
      obtain ⟨s, span⟩ := s
      rfl
  | expr e =>
      obtain ⟨e, span⟩ := e
      rfl
  | _ => rfl

theorem callParts_rebuildNode (n : Node) :
    Node.callParts (r.bottomUp.rebuildNode n) = n.callParts.map r.bottomUp.onNode :=
  congrArg Prod.snd (Transform.layer_rebuildNode_id r.bottomUp n)

end Rewrite

namespace Transform

/-- What the hooks make of a node whose parts have been transformed. -/
def steps (t : Transform Id) : Rewrite where
  ident := t.ident
  ty := t.ty
  stmt s := t.stmt s s
  expr e := t.expr e e

/-- The transformation works from the bottom up, and what it puts in the place of a node whose parts
are of the form is of the form. -/
structure Establishes (t : Transform Id) (ok : Node → Prop) : Prop where
  bottomUp : t.steps.bottomUp = t
  form : ∀ n : Node, (∀ p ∈ n.callParts, p.Everywhere ok) → (t.steps.node n).Everywhere ok

/-- The transformation establishes the form and leaves a node that is of the form as it is. -/
structure Normalizes (t : Transform Id) (ok : Node → Prop) : Prop extends Establishes t ok where
  self : ∀ n : Node, ok n.unified → t.steps.node n = n

variable {t : Transform Id} {ok : Node → Prop}

theorem Establishes.onNode_eq (h : t.Establishes ok) (n : Node) :
    t.onNode n = t.steps.node (t.rebuildNode n) := by
  have honNode := t.steps.onNode_bottomUp n
  rwa [h.bottomUp] at honNode

theorem Establishes.everywhere_onNode (h : t.Establishes ok) (n : Node) :
    Everywhere ok (t.onNode n) := by
  induction n using induct_callParts with
  | step n ih =>
      have hparts := t.steps.callParts_rebuildNode n
      rw [h.bottomUp] at hparts
      rw [h.onNode_eq]
      refine h.form _ ?_
      rw [hparts]
      exact List.forall_mem_map.mpr ih

theorem Normalizes.onNode_eq_self (h : t.Normalizes ok) {n : Node} (hn : n.Everywhere ok) :
    t.onNode n = n :=
  onNode_eq_pure (fun _ => Everywhere.callParts)
    (fun n hn hrebuild => by
      rw [h.onNode_eq, hrebuild]
      exact h.self n (everywhere_iff.mp hn).1) hn

/-- Another run changes nothing. -/
theorem Normalizes.onNode_onNode (h : t.Normalizes ok) (n : Node) :
    t.onNode (t.onNode n) = t.onNode n :=
  h.onNode_eq_self (h.everywhere_onNode n)

theorem onNode_identity (n : Node) : identity.onNode n = n := onNode_pure n

end Transform

/-! ## Expressions -/

/-- The node is not a sum or product of literals that has a literal for its value. -/
def Node.NothingToFold : Node → Prop
  | .expr e => Transform.literalValue? e.node = none
  | _ => True

namespace Transform

theorem steps_foldConstants {e : Expr} {span : Span} {folded : Expr}
    (h : (match literalValue? e with | some value => .int value | none => e) = folded) :
    foldConstants.steps.node (.expr ⟨e, span⟩) = .expr ⟨folded, span⟩ := by
  rw [← h]
  rfl

theorem normalizes_foldConstants : foldConstants.Normalizes NothingToFold where
  bottomUp := rfl
  form n h := by
    cases n with
    | expr e =>
        obtain ⟨e, span⟩ := e
        cases hvalue : literalValue? e with
        | some value =>
            -- The literal has no parts, so those of the sum or product do not matter.
            have hfolded : NothingToFold (.expr ⟨.int value, span⟩) := rfl
            rw [steps_foldConstants (by rw [hvalue])]
            exact .of_callParts (fun _ => hfolded) (List.forall_mem_nil _)
        | none =>
            rw [steps_foldConstants (by rw [hvalue])]
            exact .of_callParts (fun _ => hvalue) h
    | _ => exact .of_callParts (fun _ => trivial) h
  self n h := by
    cases n with
    | expr e =>
        have hvalue : literalValue? e.node = none := h
        exact steps_foldConstants (by rw [hvalue])
    | _ => rfl

end Transform

/-- The right side of the node, if it is a comparison, is the sum of something and one. -/
def Node.ComparesWithSuccessor : Node → Prop
  | .expr ⟨.binary .lessThan _ right, _⟩ =>
    ∃ (e one : Located Expr), right.node = .binary .plus e one ∧ one.node = .int 1
  | _ => True

namespace Transform

theorem everywhere_binary {ok : Node → Prop} {op : BinaryOp} {l r : Located Expr} {span : Span}
    (hself : ok (.expr ⟨.binary op l r, span⟩)) (hl : (Node.expr l).Everywhere ok)
    (hr : (Node.expr r).Everywhere ok) : (Node.expr ⟨.binary op l r, span⟩).Everywhere ok :=
  .of_callParts (fun _ => hself) (List.forall_mem_cons.mpr ⟨hl, List.forall_mem_singleton.mpr hr⟩)

theorem everywhere_flipComparison {l r : Located Expr} (span : Span)
    (hl : (Node.expr l).Everywhere ComparesWithSuccessor)
    (hr : (Node.expr r).Everywhere ComparesWithSuccessor) :
    (Node.expr ⟨flipComparison span (.binary .lessThan l r), span⟩).Everywhere
      ComparesWithSuccessor := by
  let one : Located Expr := ⟨.int 1, span⟩
  let next : Located Expr := ⟨.binary .plus l one, span⟩
  have hone : (Node.expr one).Everywhere ComparesWithSuccessor :=
    .of_callParts (fun _ => trivial) (List.forall_mem_nil _)
  have hnext : (Node.expr next).Everywhere ComparesWithSuccessor :=
    everywhere_binary trivial hl hone
  have hflipped : (Node.expr ⟨.binary .lessThan r next, span⟩).Everywhere ComparesWithSuccessor :=
    everywhere_binary ⟨l, one, rfl, rfl⟩ hr hnext
  exact .of_callParts (fun _ => trivial) (List.forall_mem_singleton.mpr hflipped)

theorem establishes_flipComparisons : flipComparisons.Establishes ComparesWithSuccessor where
  bottomUp := rfl
  form n h := by
    cases n with
    | expr e =>
        obtain ⟨e, span⟩ := e
        match e with
        | .binary .lessThan l r =>
            obtain ⟨hl, hr⟩ := List.forall_mem_cons.mp h
            exact everywhere_flipComparison span hl (List.forall_mem_singleton.mp hr)
        | .binary .and _ _ | .binary .plus _ _ | .binary .minus _ _ | .binary .times _ _
        | .lookup _ _ | .length _ | .call _ _ _ | .int _ | .bool _ | .var _ | .this | .newArray _
        | .newObject _ | .not _ => exact .of_callParts (fun _ => trivial) h
    | _ => exact .of_callParts (fun _ => trivial) h

end Transform

/-! ## Names -/

namespace Node

/-- The name that the node is, as an identifier or as a type. -/
def className? : Node → Option String
  | .ident i => some i.node
  | .ty ⟨.named name, _⟩ => some name
  | _ => none

/-- The name that the node is, as an identifier or as an expression. -/
def variableName? : Node → Option String
  | .ident i => some i.node
  | .expr ⟨.var name, _⟩ => some name
  | _ => none

end Node

namespace Transform

variable {old new : String}

theorem renamed_ne (hne : new ≠ old) (name : String) : renamed old new name ≠ old := by
  unfold renamed
  split
  · exact hne
  · assumption

/-- A transformation that renames nodes and changes nothing else of them leaves none with the old
name. -/
theorem normalizes_renaming {t : Transform Id} {name? : Node → Option String} (hne : new ≠ old)
    (hbottomUp : t.steps.bottomUp = t)
    (hparts : ∀ n, (t.steps.node n).callParts = n.callParts)
    (hname : ∀ n, name? (t.steps.node n) = (name? n).map (renamed old new))
    (hself : ∀ n, name? n.unified ≠ some old → t.steps.node n = n) :
    t.Normalizes fun n => name? n ≠ some old where
  bottomUp := hbottomUp
  form n h := by
    refine .of_callParts (fun _ => ?_) ((hparts n).symm ▸ h)
    rw [hname, Ne, Option.map_eq_some_iff]
    rintro ⟨name, -, hrenamed⟩
    exact renamed_ne hne name hrenamed
  self := hself

theorem normalizes_renameClass (hne : new ≠ old) :
    (renameClass old new).Normalizes fun n => n.className? ≠ some old := by
  refine normalizes_renaming hne rfl (fun n => ?_) (fun n => ?_) (fun n h => ?_)
  · cases n <;> rfl
  · cases n with
    | ty t =>
        obtain ⟨t, span⟩ := t
        cases t <;> rfl
    | _ => rfl
  · cases n with
    | ident i =>
        have hname : i.node ≠ old := fun heq => h (congrArg some heq)
        simp [steps, Rewrite.node, renameClass, Located.map, renamed, hname]
    | ty t =>
        obtain ⟨t, span⟩ := t
        cases t with
        | named name =>
            have hname : name ≠ old := fun heq => h (congrArg some heq)
            simp [steps, Rewrite.node, renameClass, Located.map, renamed, hname]
        | _ => rfl
    | _ => rfl

theorem normalizes_renameVariable (hne : new ≠ old) :
    (renameVariable old new).Normalizes fun n => n.variableName? ≠ some old := by
  refine normalizes_renaming hne rfl (fun n => ?_) (fun n => ?_) (fun n h => ?_)
  · cases n with
    | expr e =>
        obtain ⟨e, span⟩ := e
        cases e <;> rfl
    | _ => rfl
  · cases n with
    | expr e =>
        obtain ⟨e, span⟩ := e
        cases e <;> rfl
    | _ => rfl
  · cases n with
    | ident i =>
        have hname : i.node ≠ old := fun heq => h (congrArg some heq)
        simp [steps, Rewrite.node, renameVariable, Located.map, renamed, hname]
    | expr e =>
        obtain ⟨e, span⟩ := e
        cases e with
        | var name =>
            have hname : name ≠ old := fun heq => h (congrArg some heq)
            simp [steps, Rewrite.node, renameVariable, Located.map, renamed, hname]
        | _ => rfl
    | _ => rfl

end Transform

/-! ## Statements -/

/-- The node is not a block of one statement. -/
def Node.NotWrapped : Node → Prop
  | .stmt ⟨.block [_], _⟩ => False
  | _ => True

namespace Transform

theorem normalizes_unwrapBlocks : unwrapBlocks.Normalizes NotWrapped where
  bottomUp := rfl
  form n h := by
    cases n with
    | stmt s =>
        obtain ⟨s, span⟩ := s
        match s with
        -- The statement of the block is done already: it is not a block of one statement.
        | .block [s] => exact h (.stmt s) (List.mem_singleton_self _)
        | .block [] | .block (_ :: _ :: _) => exact .of_callParts (fun _ => trivial) h
        | .ifThen _ _ | .ifElse _ _ _ | .loop _ _ | .print _ | .assign _ _ | .arrayAssign _ _ _
        | .varDecl _ => exact .of_callParts (fun _ => trivial) h
    | _ => exact .of_callParts (fun _ => trivial) h
  self n h := by
    cases n with
    | stmt s =>
        obtain ⟨s, span⟩ := s
        match s with
        | .block [s] => exact h.elim
        | .block [] | .block (_ :: _ :: _) => rfl
        | .ifThen _ _ | .ifElse _ _ _ | .loop _ _ | .print _ | .assign _ _ | .arrayAssign _ _ _
        | .varDecl _ => rfl
    | _ => rfl

end Transform

/-! ## Declarations -/

namespace Transform

theorem decls_relocate (span : Span) (p : Located Program) :
    (Node.program ((relocate span).onProgram p)).locatedDecls =
      (Node.program p).locatedDecls.map fun d => ⟨d.node, span⟩ := by
  rw [relocate_eq, onProgram_ofVarDecl, Program.decls_mapDecls]

/-- The last move is the one that counts. -/
theorem relocate_relocate (span span' : Span) (p : Located Program) :
    (relocate span').onProgram ((relocate span).onProgram p) = (relocate span').onProgram p := by
  rw [relocate_eq, relocate_eq, onProgram_ofVarDecl _ p, onProgram_ofVarDecl, onProgram_ofVarDecl]
  exact congrArg (Located.mk · p.span) (Program.mapDecls_mapDecls _ _ p.node)

end Transform

end MiniJava
