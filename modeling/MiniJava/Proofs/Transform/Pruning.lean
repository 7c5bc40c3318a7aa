import MiniJava.Proofs.Transform.Hooks
import MiniJava.Proofs.Tree.Pruned

/-!
Hooks that leave their node alone. Such a hook cuts off what is below its node and nothing else: the
calls of the other hooks are those of a transformation in which every hook rebuilds its node, in the
same order, and so are the names and types that they put in.
-/
namespace MiniJava

open Node MiniJava.Tree

namespace Transform

/-- The hook for the node leaves it alone and is not for names or types, which it would replace. -/
def cuts (skip : NodeKind → Bool) (n : Node) : Bool := !n.kind.isLeaf && skip n.kind

/-- The second node can be what the first is rebuilt as: names and types are replaced, and a node of
any other sort stays the same but for its parts. -/
def Rebuilt (f : Ident → Ident) (g : Located Ty → Located Ty) : Node → Node → Prop
  | .ident i, n => n = .ident (f i)
  | .ty t, n => n = .ty (g t)
  | n, n' => n'.kind = n.kind ∧ n'.tag = n.tag ∧ n'.span = n.span

/-- Nothing is left to choose where a name or a type is replaced. -/
theorem Rebuilt.eq_of_isLeaf {f : Ident → Ident} {g : Located Ty → Located Ty} {n n' n'' : Node}
    (hn : n.kind.isLeaf) (h : Rebuilt f g n n') (h' : Rebuilt f g n n'') : n' = n'' := by
  cases n with
  | ident i => exact Eq.trans h (Eq.symm h')
  | ty t => exact Eq.trans h (Eq.symm h')
  | _ => cases hn

/-! ## What an action gives -/

/-- The action gives such a result, whatever is in the log. -/
def Yields {α : Type} (act : StateM Log α) (P : α → Prop) : Prop := ∀ log, P (act log).1

namespace Yields

variable {α β : Type} {P : α → Prop} {Q : β → Prop}

theorem pure {a : α} (h : P a) : Yields (pure a) P := fun _ => h

theorem bind {act : StateM Log α} {next : α → StateM Log β} (h : Yields act P)
    (h' : ∀ a, P a → Yields (next a) Q) : Yields (act >>= next) Q :=
  fun log => h' _ (h log) _

theorem map_iff {act : StateM Log α} {f : α → β} :
    Yields (f <$> act) Q ↔ Yields act (Q ∘ f) := Iff.rfl

theorem mono {act : StateM Log α} {P' : α → Prop} (h : Yields act P) (h' : ∀ a, P a → P' a) :
    Yields act P' :=
  fun log => h' _ (h log)

end Yields

variable {skip : NodeKind → Bool} {f : Ident → Ident} {g : Located Ty → Located Ty}

variable (skip f g) in
/-- The second tree is what the first becomes. -/
abbrev Becomes : Tree Node → Tree Node → Prop := Spared (cuts skip) (Rebuilt f g)

variable (skip f g) in
abbrev BecomesList : List (Tree Node) → List (Tree Node) → Prop :=
  SparedList (cuts skip) (Rebuilt f g)

theorem mapM_yields {act : Node → StateM Log Node} {tree : Node → Tree Node} {ns : List Node}
    (h : ∀ n ∈ ns, Yields (act n) fun n' => Becomes skip f g (tree n) (tree n')) :
    Yields (ns.mapM act) fun ns' => BecomesList skip f g (ns.map tree) (ns'.map tree) := by
  induction ns with
  | nil => exact .pure .nil
  | cons n ns ih =>
      rw [List.mapM_cons]
      refine (h n List.mem_cons_self).bind fun _ hn => ?_
      exact (ih fun n' hn' => h n' (List.mem_cons_of_mem n hn')).bind fun _ hns =>
        .pure (.cons hn hns)

/-- A declaration keeps its span, whether it is rebuilt or not. -/
theorem Becomes.span_eq {d d' : Located VarDecl}
    (h : Becomes skip f g (varDeclTree d) (varDeclTree d')) : d'.span = d.span := by
  obtain hd | hd := h.value
  · exact congrArg Node.span hd
  · exact hd.2.2

/-- A node that has the head of another, and for parts what the parts of the other become. -/
theorem rebuilt_of_head_eq {n n' : Node} (hleaf : n.kind.isLeaf = false) (hhead : n'.head = n.head)
    (hparts : BecomesList skip f g (n.callParts.map calls) (n'.callParts.map calls)) :
    Rebuilt f g n n' := by
  have hkind : n'.kind = n.kind := congrArg Head.kind hhead
  have htag : n'.tag = n.tag := congrArg Head.tag hhead
  have hspan : n'.span = n.span := by
    cases hn : n.isDeclStmt with
    | true =>
        have hn' := isDeclStmt_eq_of_head_eq hhead ▸ hn
        obtain ⟨d, rfl⟩ := exists_eq_varDecl hn
        obtain ⟨d', rfl⟩ := exists_eq_varDecl hn'
        cases hparts with
        | cons h _ => exact Becomes.span_eq h
    | false => exact (span_eq_of_head_eq hhead.symm hn).symm
  cases n with
  | ty t => cases hleaf
  | ident i => cases hleaf
  | _ => exact ⟨hkind, htag, hspan⟩

theorem rebuildNode_yields {n : Node}
    (h : ∀ p ∈ n.callParts, Yields ((logging skip f g).onNode p) fun p' =>
      Becomes skip f g p.calls p'.calls) :
    Yields ((logging skip f g).rebuildNode n) fun n' => n'.head = n.head ∧
      BecomesList skip f g (n.callParts.map calls) (n'.callParts.map calls) := by
  have hlayer : Yields (layer <$> (logging skip f g).rebuildNode n) fun l => l.1 = n.head ∧
      BecomesList skip f g (n.callParts.map calls) (l.2.map calls) := by
    rw [layer_rebuildNode, Yields.map_iff]
    exact (mapM_yields h).mono fun _ hparts => ⟨rfl, hparts⟩
  exact Yields.map_iff.mp hlayer

theorem leaf_yields {n : Node} (h : n.kind.isLeaf) :
    Yields ((logging skip f g).onNode n) fun n' => Becomes skip f g n.calls n'.calls := by
  cases n with
  | ty t => exact fun _ => .node rfl rfl .nil
  | ident i => exact fun _ => .node rfl rfl .nil
  | _ => cases h

/-- What is below a hook that leaves its node alone stays as it is, and everything else is
rebuilt. -/
theorem onNode_yields (n : Node) :
    Yields ((logging skip f g).onNode n) fun n' => Becomes skip f g n.calls n'.calls := by
  induction n using induct_callParts with
  | step n ih =>
      cases hn : n.kind.isLeaf with
      | true => exact leaf_yields hn
      | false =>
          rw [onNode_logging hn]
          refine .bind (P := fun _ => True) (fun _ => trivial) fun _ _ => ?_
          cases hs : skip n.kind with
          | true =>
              refine .pure ?_
              rw [calls_eq]
              exact .same (by rw [cuts, hn, hs]; rfl)
          | false =>
              refine (rebuildNode_yields ih).mono fun n' ⟨hhead, hparts⟩ => ?_
              rw [calls_eq, calls_eq n']
              exact .node (by rw [cuts, hn, hs]; rfl) (rebuilt_of_head_eq hn hhead hparts) hparts

/-- It is no matter whether the kinds of names and types are among those to leave alone. -/
theorem onNode_logs_cuts (n : Node) :
    Logs ((logging skip f g).onNode n) (n.calls.preorderUpTo (cuts skip)) := by
  have hleaf : logging (fun k => !k.isLeaf && skip k) f g = logging skip f g := rfl
  rw [← hleaf]
  exact onNode_logs n

/-- A hook that leaves its node alone cuts off exactly what is below it. Every node among the calls
stands below others, a declaration below its declaration statement. The log of the transformation
in which all hooks rebuild their nodes has all these nodes, and the log of the transformation some
of whose hooks leave their nodes alone has those that do not stand below a node of such a hook, in
the same order. Both results have the shape of the node. Where the one transformation left a node
alone, everything in it is as it was; elsewhere nodes are rebuilt, and the names and types in them
are those that the other transformation puts there. -/
theorem stopping_hooks_prune (skip : NodeKind → Bool) (f : Ident → Ident)
    (g : Located Ty → Located Ty) (n : Node) :
    let places : List (List Node × Node) := n.calls.lineage []
    let pruned := (logging skip f g).onNode n #[]
    let full := (logging (fun _ => false) f g).onNode n #[]
    full.2.toList = places.map Prod.snd ∧
    pruned.2.toList = (places.filter fun l => !l.1.any (cuts skip)).map Prod.snd ∧
    (pruned.1.calls.levels 0).map Prod.fst = (n.calls.levels 0).map Prod.fst ∧
    (full.1.calls.levels 0).map Prod.fst = (n.calls.levels 0).map Prod.fst ∧
    ∀ (i : Nat) (above : List Node) (m : Node), places[i]? = some (above, m) → ∃ m' m'',
      pruned.1.calls.preorder[i]? = some m' ∧ full.1.calls.preorder[i]? = some m'' ∧
      Rebuilt f g m m'' ∧
      ((m :: above).any (cuts skip) → m' = m) ∧
      (¬(m :: above).any (cuts skip) → Rebuilt f g m m' ∧ (m.kind.isLeaf → m' = m'')) := by
  intro places pruned full
  have hpruned : Becomes skip f g n.calls pruned.1.calls := onNode_yields n #[]
  have hfull : Becomes (fun _ => false) f g n.calls full.1.calls := onNode_yields n #[]
  have hlog : pruned.2.toList = [] ++ n.calls.preorderUpTo (cuts skip) := onNode_logs_cuts n #[]
  have hfullLog : full.2.toList = [] ++ n.calls.preorderUpTo (fun _ => false) := onNode_logs n #[]
  refine ⟨?_, ?_, hpruned.levels_fst 0, hfull.levels_fst 0, ?_⟩
  · rw [hfullLog, List.nil_append, preorderUpTo_never, lineage_map_snd]
  · have hroot : ([] : List Node).any (cuts skip) = false := rfl
    rw [hlog, List.nil_append, preorderUpTo_eq_filter hroot]
  · intro i above m hm
    obtain ⟨m', hm', hspared⟩ := getElem?_of_forall₂ (hpruned.forall₂ rfl) hm
    obtain ⟨m'', hm'', hrebuilt⟩ := getElem?_of_forall₂ (hfull.forall₂ rfl) hm
    have hnone : ¬(m :: above).any (cuts fun _ => false) := by simp [cuts]
    rw [SparedAt, if_neg hnone] at hrebuilt
    refine ⟨m', m'', hm', hm'', hrebuilt, fun hcut => ?_, fun hcut => ?_⟩
    · rwa [SparedAt, if_pos hcut] at hspared
    · rw [SparedAt, if_neg hcut] at hspared
      exact ⟨hspared, fun hleaf => hspared.eq_of_isLeaf hleaf hrebuilt⟩

/-- Hooks for statements leave the assignment alone: its target keeps its name, and the name of the
argument becomes what it becomes if every hook rebuilds its node. -/
theorem stopping_hooks_prune_assign :
    let span : Span := ⟨⟨none, 1, 1⟩, ⟨none, 1, 9⟩⟩
    let assign : Located Stmt := ⟨.assign ⟨"x", span⟩ ⟨.this, span⟩, span⟩
    let n : Node := .mainClass ⟨⟨⟨"M", span⟩, ⟨"args", span⟩, assign⟩, span⟩
    let skip (k : NodeKind) : Bool := k = .stmt
    let shout (i : Ident) : Ident := i.map (· ++ "!")
    let pruned := (logging skip shout id).onNode n #[]
    let full := (logging (fun _ => false) shout id).onNode n #[]
    (n.calls.lineage [])[2]? = some ([n], .ident ⟨"args", span⟩) ∧
    pruned.1.calls.preorder[2]? = full.1.calls.preorder[2]? ∧
    (n.calls.lineage [])[4]? = some ([.stmt assign, n], .ident ⟨"x", span⟩) ∧
    pruned.1.calls.preorder[4]? = some (.ident ⟨"x", span⟩) := by
  intro span assign n skip shout pruned full
  have hargs : (n.calls.lineage [])[2]? = some ([n], .ident ⟨"args", span⟩) := rfl
  have hx : (n.calls.lineage [])[4]? = some ([.stmt assign, n], .ident ⟨"x", span⟩) := by
    simp [n, assign, calls, mainClassCalls, stmtCalls, stmtCallParts, lineage, lineageList,
      identTree]
  obtain ⟨args, args', hargs', hfull, -, -, hkeep⟩ :=
    (stopping_hooks_prune skip shout id n).2.2.2.2 2 [n] (.ident ⟨"args", span⟩) hargs
  obtain ⟨x, -, hx', -, -, hcut, -⟩ :=
    (stopping_hooks_prune skip shout id n).2.2.2.2 4 [.stmt assign, n] (.ident ⟨"x", span⟩) hx
  refine ⟨hargs, ?_, hx, ?_⟩
  · rw [hargs', hfull, (hkeep (by decide)).2 rfl]
  · rw [hx', hcut (by decide)]

end Transform

end MiniJava
