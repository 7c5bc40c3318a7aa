import MiniJava.Proofs.Transform.Rebuilding
import MiniJava.Proofs.Tree.Walk
import MiniJava.Transform.Passes

/-!
The hooks that a transformation calls. A node calls its own hook first and then, if that rebuilds
it, those of its parts, so the calls of a node form a tree; the log of a transformation is that tree
in preorder, cut off where a hook leaves its node alone.
-/
namespace MiniJava

/-! ## The tree of calls -/

namespace Node

mutual

/-- The calls for a statement. A declaration statement calls a hook of its own, and below it the one
of its declaration. -/
def stmtCalls : Located Stmt → Tree Node
  | ⟨s, span⟩ => .node (.stmt ⟨s, span⟩) (stmtCallParts span s)

def stmtCallParts (span : Span) : Stmt → List (Tree Node)
  | .block body => stmtCallsList body
  | .ifThen c t => [exprTree c, stmtCalls t]
  | .ifElse c t e => [exprTree c, stmtCalls t, stmtCalls e]
  | .loop c body => [exprTree c, stmtCalls body]
  | .print value => [exprTree value]
  | .assign target value => [identTree target, exprTree value]
  | .arrayAssign target index value => [identTree target, exprTree index, exprTree value]
  | .varDecl decl => [varDeclTree ⟨decl, span⟩]

def stmtCallsList : List (Located Stmt) → List (Tree Node)
  | [] => []
  | s :: ss => stmtCalls s :: stmtCallsList ss

end

def methodCalls (m : Located MethodDecl) : Tree Node :=
  .node (.methodDecl m) <|
    [tyTree m.node.returnType, identTree m.node.name] ++ m.node.formals.map formalTree ++
      m.node.body.map stmtCalls ++ [exprTree m.node.returnExpr]

def classCalls (c : Located ClassDecl) : Tree Node :=
  .node (.classDecl c) <|
    [identTree c.node.name] ++ c.node.parent.toList.map identTree ++
      c.node.fields.map varDeclTree ++ c.node.methods.map methodCalls

def mainClassCalls (c : Located MainClass) : Tree Node :=
  .node (.mainClass c) [identTree c.node.name, identTree c.node.args, stmtCalls c.node.body]

def programCalls (p : Located Program) : Tree Node :=
  .node (.program p) (mainClassCalls p.node.mainClass :: p.node.classes.map classCalls)

/-- The hooks that are called for the node and its parts, each with the node that it is given. -/
def calls : Node → Tree Node
  | .program p => programCalls p
  | .mainClass c => mainClassCalls c
  | .classDecl c => classCalls c
  | .varDecl d => varDeclTree d
  | .methodDecl m => methodCalls m
  | .formal f => formalTree f
  | .ty t => tyTree t
  | .stmt s => stmtCalls s
  | .expr e => exprTree e
  | .ident i => identTree i

theorem stmtCallsList_eq_map (ss : List (Located Stmt)) : stmtCallsList ss = ss.map stmtCalls := by
  induction ss with
  | nil => rfl
  | cons s ss ih => rw [stmtCallsList, ih, List.map_cons]

/-- Below the call for a node are those for the nodes that are transformed to rebuild it. -/
theorem calls_eq (n : Node) : n.calls = .node n (n.callParts.map calls) := by
  cases n with
  | program p =>
      rw [callParts_eq_parts rfl, parts, List.map_cons, List.map_map]
      rfl
  | classDecl c =>
      rw [callParts_eq_parts rfl, parts]
      simp only [List.map_cons, List.map_append, List.map_map]
      rfl
  | varDecl d =>
      rw [callParts_eq_parts rfl, parts, partsOfVarDecl, List.map_cons, List.map_map]
      rfl
  | methodDecl m =>
      rw [callParts_eq_parts rfl, parts]
      simp only [List.map_cons, List.map_append, List.map_map]
      rfl
  | stmt s =>
      obtain ⟨s, span⟩ := s
      cases s with
      | block body =>
          rw [calls, stmtCalls, stmtCallParts, stmtCallsList_eq_map, callParts_eq_parts rfl, parts,
            partsOfStmt, List.map_map]
          rfl
      | _ => rfl
  | expr e =>
      obtain ⟨e, span⟩ := e
      cases e with
      | call receiver method args =>
          rw [calls, exprTree, exprParts, exprTrees_eq_map, callParts_eq_parts rfl, parts,
            partsOfExpr, List.map_cons, List.map_cons, List.map_map]
          rfl
      | _ => rfl
  | _ => rfl

end Node

/-! ## Actions that add to the log -/

namespace Transform

/-- The action adds the nodes to the log, whatever is in it, and changes nothing else there. -/
def Logs {α : Type} (act : StateM Log α) (nodes : List Node) : Prop :=
  ∀ log, (act log).2.toList = log.toList ++ nodes

namespace Logs

variable {α β : Type}

theorem pure (a : α) : Logs (pure a) [] := fun log => (List.append_nil log.toList).symm

theorem push (n : Node) : Logs (modify (·.push n)) [n] := fun _ => Array.toList_push

theorem bind {act : StateM Log α} {next : α → StateM Log β} {ns ns' : List Node}
    (h : Logs act ns) (h' : ∀ a, Logs (next a) ns') : Logs (act >>= next) (ns ++ ns') := by
  intro log
  show (next (act log).1 (act log).2).2.toList = _
  rw [h' _, h log, List.append_assoc]

/-- What is made of the result does not matter to the log. -/
theorem map_iff {act : StateM Log α} {ns : List Node} {f : α → β} :
    Logs (f <$> act) ns ↔ Logs act ns := Iff.rfl

end Logs

open Node MiniJava.Tree

/-- Log every hook that is reached, as it is given its node, and replace names and types. Hooks for
the kinds in `skip` leave the node and its parts alone. -/
def logging (skip : NodeKind → Bool) (f : Ident → Ident) (g : Located Ty → Located Ty) :
    Transform (StateM Log) :=
  { logged skip "" with
    ty := fun t => do modify (·.push (.ty t)); return g t
    ident := fun i => do modify (·.push (.ident i)); return f i }

theorem logging_suffix (skip : NodeKind → Bool) (suffix : String) :
    logging skip (·.map (· ++ suffix)) id = logged skip suffix := rfl

variable {skip : NodeKind → Bool} {f : Ident → Ident} {g : Located Ty → Located Ty}

/-- A hook that is not for names or types gives its node back or rebuilds it. -/
theorem onNode_logging {n : Node} (h : n.kind.isLeaf = false) :
    (logging skip f g).onNode n =
      (do modify (·.push n); if skip n.kind then pure n else (logging skip f g).rebuildNode n) := by
  cases n with
  | ty t => cases h
  | ident i => cases h
  | stmt s =>
      obtain ⟨s, span⟩ := s
      split <;> simp_all [onNode, rebuildNode, onStmt, logging, logged, kind]
  | expr e =>
      obtain ⟨e, span⟩ := e
      split <;> simp_all [onNode, rebuildNode, onExpr, logging, logged, kind]
  | _ =>
      split <;>
        simp_all [onNode, rebuildNode, onProgram, onMainClass, onClassDecl, onVarDecl,
          onMethodDecl, onFormal, logging, logged, kind]

/-- The node stops what is below it from being transformed. -/
abbrev stops (skip : NodeKind → Bool) (n : Node) : Bool := skip n.kind

theorem mapM_logs {act : Node → StateM Log Node} {tree : Node → Tree Node} {ns : List Node}
    (h : ∀ n ∈ ns, Logs (act n) ((tree n).preorderUpTo (stops skip))) :
    Logs (ns.mapM act) (preorderUpToList (stops skip) (ns.map tree)) := by
  induction ns with
  | nil => exact .pure _
  | cons n ns ih =>
      rw [List.mapM_cons, List.map_cons, preorderUpToList]
      refine (h n List.mem_cons_self).bind fun _ => ?_
      exact ih fun n' hn' => h n' (List.mem_cons_of_mem n hn')

theorem rebuildNode_logs {n : Node}
    (h : ∀ p ∈ n.callParts,
      Logs ((logging skip f g).onNode p) (p.calls.preorderUpTo (stops skip))) :
    Logs ((logging skip f g).rebuildNode n)
      (preorderUpToList (stops skip) (n.callParts.map calls)) := by
  rw [← Logs.map_iff (f := layer), layer_rebuildNode, Logs.map_iff]
  exact mapM_logs h

theorem leaf_logs {n : Node} (h : n.kind.isLeaf) : Logs ((logging skip f g).onNode n) [n] := by
  cases n with
  | ty t => exact Logs.push (.ty t)
  | ident i => exact Logs.push (.ident i)
  | _ => cases h

/-- The log of a transformation lists the calls of the hooks, without those below a hook that leaves
its node alone. -/
theorem onNode_logs (n : Node) :
    Logs ((logging skip f g).onNode n) (n.calls.preorderUpTo (stops skip)) := by
  induction n using induct_callParts with
  | step n ih =>
      rw [calls_eq, preorderUpTo]
      cases hn : n.kind.isLeaf with
      | true =>
          rw [callParts_of_isLeaf hn, List.map_nil, preorderUpToList, ite_self]
          exact leaf_logs hn
      | false =>
          rw [onNode_logging hn]
          refine (Logs.push n).bind fun _ => ?_
          rw [stops]
          cases hs : skip n.kind with
          | true => exact .pure n
          | false => exact rebuildNode_logs ih

end Transform

end MiniJava
