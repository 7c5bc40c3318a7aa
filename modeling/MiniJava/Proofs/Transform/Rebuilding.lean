import Mathlib.Logic.Function.Basic
import MiniJava.Proofs.Outline.Heading
import MiniJava.Proofs.Syntax.Sorts
import MiniJava.Proofs.Tree.Parts
import MiniJava.Proofs.Tree.Traverse
import MiniJava.Transform.Basic

/-!
How a transformation rebuilds a node. Whatever the hooks are, the node keeps its head, which is all
that it is apart from its parts, and its parts are what the transformation makes of the parts. With
the induction from the parts of a node to the node, what a transformation does is known from what
its hooks do at one node.
-/
namespace MiniJava

open Outline MiniJava.Tree

/-- Nodes of this kind have no parts, whatever they are. -/
def NodeKind.isLeaf : NodeKind → Bool
  | .ty | .ident => true
  | _ => false

namespace Node

/-- The node is a declaration statement, seen as a statement and not as a declaration. -/
def isDeclStmt : Node → Bool
  | .stmt ⟨.varDecl _, _⟩ => true
  | _ => false

/-- The nodes that are transformed to rebuild the node: its parts, but of a declaration statement
the declaration. -/
def callParts : Node → List Node
  | .stmt ⟨.varDecl decl, span⟩ => [.varDecl ⟨decl, span⟩]
  | n => n.parts

theorem exists_eq_varDecl {n : Node} (h : n.isDeclStmt) :
    ∃ d : Located VarDecl, n = .stmt (d.map .varDecl) := by
  fun_cases isDeclStmt n with
  | case1 decl span => exact ⟨⟨decl, span⟩, rfl⟩
  | case2 n hn => rw [isDeclStmt.eq_2 n hn] at h; cases h

/-- Only a declaration statement is another node in a tree. -/
theorem unified_eq_self {n : Node} (h : n.isDeclStmt = false) : n.unified = n := by
  cases n with
  | stmt s =>
      obtain ⟨s, span⟩ := s
      cases s with
      | varDecl decl => cases h
      | _ => rfl
  | _ => rfl

theorem tree_declStmt (d : Located VarDecl) :
    (Node.stmt (d.map .varDecl)).tree = (Node.varDecl d).tree := by
  show stmtTree ⟨.varDecl d.node, d.span⟩ = varDeclTree d
  rw [stmtTree, stmtParts, varDeclTree]
  rfl

theorem callParts_eq_parts {n : Node} (h : n.isDeclStmt = false) : n.callParts = n.parts := by
  fun_cases callParts n with
  | case1 => cases h
  | case2 => rfl

theorem callParts_of_isLeaf {n : Node} (h : n.kind.isLeaf) : n.callParts = [] := by
  cases n with
  | ty t => rfl
  | ident i => rfl
  | _ => cases h

theorem induct_callParts {motive : Node → Prop}
    (step : ∀ n : Node, (∀ p ∈ n.callParts, motive p) → motive n) (n : Node) : motive n := by
  induction n using induct with
  | step n ih =>
      cases hn : n.isDeclStmt with
      | true =>
          -- A declaration statement and its declaration have the same parts.
          obtain ⟨d, rfl⟩ := exists_eq_varDecl hn
          refine step _ fun p hp => ?_
          rw [List.mem_singleton.mp hp]
          exact step _ ih
      | false => exact step n (callParts_eq_parts hn ▸ ih)

/-! ## Heads -/

/-- What a node is apart from its parts. A declaration statement has the span of its declaration and
none of its own. -/
structure Head where
  kind : NodeKind
  tag : Tag
  span? : Option Span

def head (n : Node) : Head where
  kind := n.kind
  tag := n.tag
  span? := if n.isDeclStmt then none else some n.span

def layer (n : Node) : Head × List Node := (n.head, n.callParts)

theorem isDeclStmt_eq_of_head_eq {n n' : Node} (h : n.head = n'.head) :
    n.isDeclStmt = n'.isDeclStmt := by
  have hspan : n.head.span?.isSome = n'.head.span?.isSome := by rw [h]
  revert hspan
  cases hn : n.isDeclStmt <;> cases hn' : n'.isDeclStmt <;> simp [head, hn, hn']

theorem span_eq_of_head_eq {n n' : Node} (h : n.head = n'.head) (hn : n.isDeclStmt = false) :
    n.span = n'.span := by
  have hn' : n'.isDeclStmt = false := isDeclStmt_eq_of_head_eq h ▸ hn
  have hspan : n.head.span? = n'.head.span? := by rw [h]
  simpa [head, hn, hn'] using hspan

/-- Nodes of one sort can be told from what follows them. -/
theorem append_inj_of_sort {α : Type} {sort : α → Node} {p : Node → Option α}
    (h : ∀ a, p (sort a) = some a) {as as' : List α} {ns ns' : List Node}
    (hns : ns.filterMap p = []) (hns' : ns'.filterMap p = [])
    (heq : as.map sort ++ ns = as'.map sort ++ ns') : as = as' ∧ ns = ns' := by
  have has : (as.map sort ++ ns).filterMap p = (as'.map sort ++ ns').filterMap p := by rw [heq]
  rw [List.filterMap_append, List.filterMap_append, filterMap_map_self h, filterMap_map_self h,
    hns, hns', List.append_nil, List.append_nil] at has
  subst has
  exact ⟨rfl, List.append_cancel_left heq⟩

theorem members_inj {fields fields' : List (Located VarDecl)}
    {methods methods' : List (Located MethodDecl)}
    (h : fields.map Node.varDecl ++ methods.map Node.methodDecl =
      fields'.map Node.varDecl ++ methods'.map Node.methodDecl) :
    fields = fields' ∧ methods = methods' := by
  obtain ⟨hfields, hmethods⟩ := append_inj_of_sort (p := field?) (fun _ => rfl)
    (filterMap_map_other (fun _ => rfl) methods) (filterMap_map_other (fun _ => rfl) methods') h
  exact ⟨hfields, (List.map_inj_right fun _ _ => Node.methodDecl.inj).mp hmethods⟩

theorem expr_eq_of_parts_eq {e e' : Expr} {span span' : Span}
    (htag : tag (.expr ⟨e, span⟩) = tag (.expr ⟨e', span'⟩))
    (hparts : partsOfExpr e = partsOfExpr e') : e = e' := by
  cases e <;> cases e' <;>
    simp_all [tag, construct, Expr.construct, partsOfExpr, List.map_inj_right]

theorem varDecl_eq_of_parts_eq {d d' : VarDecl} (hparts : partsOfVarDecl d = partsOfVarDecl d') :
    d = d' := by
  obtain ⟨ty, first, rest⟩ := d
  obtain ⟨ty', first', rest'⟩ := d'
  simpa [partsOfVarDecl, VarDecl.idents, List.map_inj_right] using hparts

theorem stmt_eq_of_parts_eq {s s' : Stmt} {span span' : Span}
    (htag : tag (.stmt ⟨s, span⟩) = tag (.stmt ⟨s', span'⟩))
    (hparts : partsOfStmt s = partsOfStmt s') : s = s' := by
  cases s <;> cases s' <;>
    simp_all [tag, construct, Stmt.construct, partsOfStmt, List.map_inj_right]
  exact varDecl_eq_of_parts_eq hparts

theorem classDecl_eq_of_parts_eq {c c' : ClassDecl} {span span' : Span}
    (htag : tag (.classDecl ⟨c, span⟩) = tag (.classDecl ⟨c', span'⟩))
    (hparts : parts (.classDecl ⟨c, span⟩) = parts (.classDecl ⟨c', span'⟩)) : c = c' := by
  obtain ⟨name, parent, fields, methods⟩ := c
  obtain ⟨name', parent', fields', methods'⟩ := c'
  cases parent <;> cases parent' <;>
    simp only [tag, construct, ClassDecl.construct] at htag
  · simp only [parts, Option.toList_none, List.map_nil, List.nil_append, List.cons.injEq,
      ident.injEq] at hparts
    obtain ⟨rfl, rfl⟩ := members_inj hparts.2
    simp [hparts.1]
  · simp at htag
  · simp at htag
  · simp only [parts, Option.toList_some, List.map_cons, List.map_nil, List.cons_append,
      List.nil_append, List.cons.injEq, ident.injEq] at hparts
    obtain ⟨rfl, rfl⟩ := members_inj hparts.2.2
    simp [hparts.1, hparts.2.1]

theorem methodDecl_eq_of_parts_eq {d d' : MethodDecl} {span span' : Span}
    (hparts : parts (.methodDecl ⟨d, span⟩) = parts (.methodDecl ⟨d', span'⟩)) : d = d' := by
  obtain ⟨returnType, name, formals, body, returnExpr⟩ := d
  obtain ⟨returnType', name', formals', body', returnExpr'⟩ := d'
  simp only [parts, List.append_assoc, List.cons.injEq, ty.injEq, ident.injEq] at hparts
  obtain ⟨rfl, rfl, hparts⟩ := hparts
  have hnone (ss : List (Located Stmt)) (e : Located Expr) :
      (ss.map Node.stmt ++ [Node.expr e]).filterMap formal? = [] := by
    rw [List.filterMap_append, filterMap_map_other fun _ => rfl]
    rfl
  obtain ⟨rfl, hrest⟩ := append_inj_of_sort (p := formal?) (fun _ => rfl) (hnone body returnExpr)
    (hnone body' returnExpr') hparts
  obtain ⟨rfl, hreturn⟩ := append_inj_of_sort (p := stmt?) (fun _ => rfl) rfl rfl hrest
  cases hreturn
  rfl

theorem program_eq_of_parts_eq {p p' : Program} {span span' : Span}
    (hparts : parts (.program ⟨p, span⟩) = parts (.program ⟨p', span'⟩)) : p = p' := by
  obtain ⟨mainClass, classes⟩ := p
  obtain ⟨mainClass', classes'⟩ := p'
  simpa [parts, List.map_inj_right] using hparts

theorem mainClass_eq_of_parts_eq {c c' : MainClass} {span span' : Span}
    (hparts : parts (.mainClass ⟨c, span⟩) = parts (.mainClass ⟨c', span'⟩)) : c = c' := by
  obtain ⟨name, args, body⟩ := c
  obtain ⟨name', args', body'⟩ := c'
  simpa [parts] using hparts

theorem formal_eq_of_parts_eq {f f' : Formal} {span span' : Span}
    (hparts : parts (.formal ⟨f, span⟩) = parts (.formal ⟨f', span'⟩)) : f = f' := by
  obtain ⟨ty, name⟩ := f
  obtain ⟨ty', name'⟩ := f'
  simpa [parts] using hparts

theorem ty_eq_of_tag_eq {t t' : Ty} {span span' : Span}
    (htag : tag (.ty ⟨t, span⟩) = tag (.ty ⟨t', span'⟩)) : t = t' := by
  cases t <;> cases t' <;> simp_all [tag, construct, Ty.construct]

theorem eq_of_node_eq {α : Type} {a a' : Located α} (hnode : a.node = a'.node)
    (hspan : a.span = a'.span) : a = a' := by
  cases a
  cases a'
  exact congrArg₂ Located.mk hnode hspan

/-- A node is known from its head and its parts. -/
theorem layer_injective : Function.Injective layer := by
  intro n n' h
  have hhead : n.head = n'.head := congrArg Prod.fst h
  have hkind : n.kind = n'.kind := congrArg Head.kind hhead
  have htag : n.tag = n'.tag := congrArg Head.tag hhead
  have hparts : n.callParts = n'.callParts := congrArg Prod.snd h
  cases hn : n.isDeclStmt with
  | true =>
      obtain ⟨d, rfl⟩ := exists_eq_varDecl hn
      obtain ⟨d', rfl⟩ := exists_eq_varDecl (isDeclStmt_eq_of_head_eq hhead ▸ hn)
      have hd : d = d' := Node.varDecl.inj (List.cons.inj hparts).1
      rw [hd]
  | false =>
      have hspan : n.span = n'.span := span_eq_of_head_eq hhead hn
      rw [callParts_eq_parts hn, callParts_eq_parts (isDeclStmt_eq_of_head_eq hhead ▸ hn)] at hparts
      cases n with
      | program p =>
          cases n' with
          | program p' =>
              have hnode := program_eq_of_parts_eq hparts
              exact congrArg program (eq_of_node_eq hnode hspan)
          | _ => cases hkind
      | mainClass c =>
          cases n' with
          | mainClass c' =>
              have hnode := mainClass_eq_of_parts_eq hparts
              exact congrArg mainClass (eq_of_node_eq hnode hspan)
          | _ => cases hkind
      | classDecl c =>
          cases n' with
          | classDecl c' =>
              have hnode := classDecl_eq_of_parts_eq htag hparts
              exact congrArg classDecl (eq_of_node_eq hnode hspan)
          | _ => cases hkind
      | varDecl d =>
          cases n' with
          | varDecl d' =>
              have hnode := varDecl_eq_of_parts_eq hparts
              exact congrArg varDecl (eq_of_node_eq hnode hspan)
          | _ => cases hkind
      | methodDecl d =>
          cases n' with
          | methodDecl d' =>
              have hnode := methodDecl_eq_of_parts_eq hparts
              exact congrArg methodDecl (eq_of_node_eq hnode hspan)
          | _ => cases hkind
      | formal f =>
          cases n' with
          | formal f' =>
              have hnode := formal_eq_of_parts_eq hparts
              exact congrArg formal (eq_of_node_eq hnode hspan)
          | _ => cases hkind
      | ty t =>
          cases n' with
          | ty t' =>
              have hnode := ty_eq_of_tag_eq htag
              exact congrArg ty (eq_of_node_eq hnode hspan)
          | _ => cases hkind
      | stmt s =>
          cases n' with
          | stmt s' =>
              have hnode := stmt_eq_of_parts_eq htag hparts
              exact congrArg stmt (eq_of_node_eq hnode hspan)
          | _ => cases hkind
      | expr e =>
          cases n' with
          | expr e' =>
              have hnode := expr_eq_of_parts_eq htag hparts
              exact congrArg expr (eq_of_node_eq hnode hspan)
          | _ => cases hkind
      | ident i =>
          cases n' with
          | ident i' => exact congrArg ident (eq_of_node_eq (Tag.ident.inj htag) hspan)
          | _ => cases hkind

end Node

open Node

/-! ## One node -/

namespace Transform

section Rebuild

variable {m : Type → Type} [Monad m] [LawfulMonad m]

theorem onList_eq_mapM {α : Type} (f : α → m α) (as : List α) : onList f as = as.mapM f := by
  induction as with
  | nil => simp [onList]
  | cons a as ih => simp [onList, ih]

variable (t : Transform m)

theorem onExprs_eq_mapM (es : List (Located Expr)) : t.onExprs es = es.mapM t.onExpr := by
  induction es with
  | nil => simp [onExprs]
  | cons e es ih => simp [onExprs, ih]

theorem onStmts_eq_mapM (ss : List (Located Stmt)) : t.onStmts ss = ss.mapM t.onStmt := by
  induction ss with
  | nil => simp [onStmts]
  | cons s ss ih => simp [onStmts, ih]

/-- A node is rebuilt with its own head, and with its parts transformed from left to right. -/
theorem layer_rebuildNode (n : Node) :
    layer <$> t.rebuildNode n = (n.head, ·) <$> n.callParts.mapM t.onNode := by
  cases n with
  | program p =>
      simp [layer, rebuildNode, rebuildProgram, callParts, parts, onNode, onList_eq_mapM,
        Function.comp_def, ← map_mapM, head, kind, isDeclStmt, tag, construct, Node.span]
  | mainClass c =>
      simp [layer, rebuildNode, rebuildMainClass, callParts, parts, onNode, head, kind, isDeclStmt,
        tag, construct, Node.span]
  | classDecl c =>
      obtain ⟨⟨name, parent, fields, methods⟩, span⟩ := c
      cases parent <;>
        simp [layer, rebuildNode, rebuildClassDecl, onParent, callParts, parts, onNode,
          onList_eq_mapM, Function.comp_def, ← map_mapM, head, kind, isDeclStmt, tag, construct,
          ClassDecl.construct, Node.span]
  | varDecl d =>
      simp [layer, rebuildNode, rebuildVarDecl, callParts, parts, partsOfVarDecl, VarDecl.idents,
        onNode, onList_eq_mapM, Function.comp_def, ← map_mapM, head, kind, isDeclStmt, tag,
        construct, Node.span]
  | methodDecl d =>
      simp [layer, rebuildNode, rebuildMethodDecl, callParts, parts, onNode, onList_eq_mapM,
        onStmts_eq_mapM, Function.comp_def, ← map_mapM, head, kind, isDeclStmt, tag, construct,
        Node.span]
  | formal f =>
      simp [layer, rebuildNode, rebuildFormal, callParts, parts, onNode, head, kind, isDeclStmt,
        tag, construct, Node.span]
  | ty a => simp [layer, rebuildNode, callParts, parts]
  | stmt s =>
      obtain ⟨s, span⟩ := s
      cases s <;>
        simp [layer, rebuildNode, rebuildStmt, callParts, parts, partsOfStmt, onNode,
          onStmts_eq_mapM, Function.comp_def, ← map_mapM, Located.map, head, kind, isDeclStmt, tag,
          construct, Stmt.construct, Node.span]
  | expr e =>
      obtain ⟨e, span⟩ := e
      cases e <;>
        simp [layer, rebuildNode, rebuildExpr, callParts, parts, partsOfExpr, onNode,
          onExprs_eq_mapM, Function.comp_def, ← map_mapM, head, kind, isDeclStmt, tag, construct,
          Expr.construct, Node.span]
  | ident i => simp [layer, rebuildNode, callParts, parts]

theorem mapM_congr {α β : Type} {f g : α → m β} {as : List α} (h : ∀ a ∈ as, f a = g a) :
    as.mapM f = as.mapM g := by
  induction as with
  | nil => rfl
  | cons a as ih =>
      rw [List.mapM_cons, List.mapM_cons, h a List.mem_cons_self,
        ih fun b hb => h b (List.mem_cons_of_mem a hb)]

/-- Actions are known from what a function without loss makes of their results. -/
theorem eq_of_map_eq {α β : Type} [Nonempty α] {f : α → β} (hf : Function.Injective f) {x y : m α}
    (h : f <$> x = f <$> y) : x = y := by
  have hback : Function.invFun f <$> f <$> x = Function.invFun f <$> f <$> y := by rw [h]
  rwa [← comp_map, ← comp_map, Function.invFun_comp hf, id_map, id_map] at hback

variable {t}

theorem rebuildNode_eq_pure {n : Node} (h : ∀ p ∈ n.callParts, t.onNode p = pure p) :
    t.rebuildNode n = pure n := by
  have : Nonempty Node := ⟨n⟩
  apply eq_of_map_eq layer_injective
  rw [layer_rebuildNode, mapM_congr h, List.mapM_pure, List.map_id', map_pure, map_pure]
  rfl

/-- Nothing is replaced where the hooks leave a node as it is if it is rebuilt as it was. -/
theorem onNode_eq_pure {S : Node → Prop} (hparts : ∀ n, S n → ∀ p ∈ n.callParts, S p)
    (hhook : ∀ n, S n → t.rebuildNode n = pure n → t.onNode n = pure n) {n : Node} (h : S n) :
    t.onNode n = pure n := by
  induction n using induct_callParts with
  | step n ih => exact hhook n h (rebuildNode_eq_pure fun p hp => ih p hp (hparts n h p hp))

/-! ## No hooks but for names and types -/

/-- The transformation with no hooks but those for names and types. -/
def ofLeaves (ident : Ident → m Ident) (ty : Located Ty → m (Located Ty)) : Transform m where
  ident := ident
  ty := ty

theorem onNode_ofLeaves (ident : Ident → m Ident) (ty : Located Ty → m (Located Ty)) {n : Node}
    (h : n.kind.isLeaf = false) :
    (ofLeaves ident ty).onNode n = (ofLeaves ident ty).rebuildNode n := by
  cases n with
  | ty a => cases h
  | ident i => cases h
  | stmt s =>
      obtain ⟨s, span⟩ := s
      simp [onNode, rebuildNode, onStmt, ofLeaves]
  | expr e =>
      obtain ⟨e, span⟩ := e
      simp [onNode, rebuildNode, onExpr, ofLeaves]
  | _ =>
      simp [onNode, rebuildNode, onProgram, onMainClass, onClassDecl, onVarDecl, onMethodDecl,
        onFormal, ofLeaves]

end Rebuild

/-! ## Transformations that only replace -/

section Pure

theorem onList_eq_map {α : Type} (f : α → Id α) (as : List α) : onList f as = as.map f :=
  (onList_eq_mapM f as).trans List.idRun_mapM

theorem layer_rebuildNode_id (t : Transform Id) (n : Node) :
    layer (t.rebuildNode n) = (n.head, n.callParts.map t.onNode) := by
  have hlayer : layer (t.rebuildNode n) = (n.head, n.callParts.mapM (m := Id) t.onNode) :=
    t.layer_rebuildNode n
  rw [hlayer, show n.callParts.mapM (m := Id) t.onNode = _ from List.idRun_mapM]
  rfl

end Pure

end Transform

end MiniJava
