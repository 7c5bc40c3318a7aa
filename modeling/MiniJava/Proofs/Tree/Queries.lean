import Mathlib.Data.List.Nodup
import MiniJava.Proofs.Tree.EarlyExit
import MiniJava.Query

/-!
Questions about an expression and the nodes that answer them. Whatever a search is for, what it
finds are the nodes in preorder that satisfy a predicate; the calls and the variables of an
expression are answered in one pass of their own, and the answers are those of a search.
-/
namespace MiniJava

open MiniJava.Tree

variable {α : Type}

/-! ## Walks that look for an answer -/

/-- At a value that satisfies the predicate, leave the answer in the flag and stop. -/
def answerAt (p : α → Bool) (answer : Bool) (a : α) : EStateM Unit Bool Unit := do
  if p a then
    set answer
    throw ()

/-- The flag after a walk, whether it was stopped or not. -/
def flagOf : EStateM.Result Unit Bool Unit → Bool
  | .ok _ flag | .error _ flag => flag

theorem answerAt_of_true {p : α → Bool} {a : α} (h : p a = true) (answer flag : Bool) :
    answerAt p answer a flag = .error () answer := by
  rw [answerAt, if_pos h]
  rfl

theorem answerAt_of_false {p : α → Bool} {a : α} (h : p a = false) (answer flag : Bool) :
    answerAt p answer a flag = .ok () flag := by
  rw [answerAt, if_neg (Bool.eq_false_iff.mp h)]
  rfl

theorem flagOf_forM (p : α → Bool) (answer flag : Bool) (as : List α) :
    flagOf (as.forM (answerAt p answer) flag) = if as.any p then answer else flag := by
  induction as with
  | nil => rfl
  | cons a as ih =>
      cases ha : p a with
      | true =>
          rw [forM_cons_of_error (answerAt_of_true ha answer flag), List.any_cons, ha]
          rfl
      | false =>
          rw [forM_cons_of_ok (answerAt_of_false ha answer flag), ih, List.any_cons, ha,
            Bool.false_or]

namespace Tree

theorem any_eq_flag (p : α → Bool) (t : Tree α) :
    t.any p = flagOf (t.walk (answerAt p true) false) := by
  rw [walk_eq_forM, flagOf_forM, any_eq_any]
  cases t.preorder.any p <;> rfl

theorem all_eq_flag (p : α → Bool) (t : Tree α) :
    t.all p = flagOf (t.walk (answerAt (fun a => !p a) false) true) := by
  rw [walk_eq_forM, flagOf_forM, all_eq_all, List.all_eq_not_any_not]
  cases t.preorder.any fun a => !p a <;> rfl

theorem any_iff_find (p : α → Bool) (t : Tree α) : t.any p ↔ t.find p ≠ [] := by
  rw [any_eq_any, find_eq_filter, ne_eq, List.filter_eq_nil_iff, List.any_eq_true]
  simp

theorem all_iff_find (p : α → Bool) (t : Tree α) : t.all p ↔ t.find (fun a => !p a) = [] := by
  rw [all_eq_all, find_eq_filter, List.filter_eq_nil_iff, List.all_eq_true]
  simp

end Tree

/-! ## Calls and variables -/

namespace Expr

/-- The expression is built by the construct. -/
def isA (c : Construct) (e : Located Expr) : Bool := e.node.construct == c

mutual

theorem countCalls_eq_length (span : Span) : (e : Expr) →
    e.countCalls = ((tree ⟨e, span⟩).find (isA .call)).length
  | .call ⟨r, s⟩ _ args => by
      simp [countCalls, tree, subtrees, find, findList, isA, construct, countCalls_eq_length s r,
        countCallsList_eq_length args, Nat.add_comm]
  | .binary _ ⟨l, s⟩ ⟨r, t⟩ => by
      simp [countCalls, tree, subtrees, find, findList, isA, construct, countCalls_eq_length s l,
        countCalls_eq_length t r]
  | .lookup ⟨a, s⟩ ⟨i, t⟩ => by
      simp [countCalls, tree, subtrees, find, findList, isA, construct, countCalls_eq_length s a,
        countCalls_eq_length t i]
  | .length ⟨a, s⟩ => by
      simp [countCalls, tree, subtrees, find, findList, isA, construct, countCalls_eq_length s a]
  | .newArray ⟨n, s⟩ => by
      simp [countCalls, tree, subtrees, find, findList, isA, construct, countCalls_eq_length s n]
  | .not ⟨e, s⟩ => by
      simp [countCalls, tree, subtrees, find, findList, isA, construct, countCalls_eq_length s e]
  | .int _ | .bool _ | .var _ | .this | .newObject _ => by
      simp [countCalls, tree, subtrees, find, findList, isA, construct]

theorem countCallsList_eq_length : (es : List (Located Expr)) →
    countCallsList es = (findList (isA .call) (treeList es)).length
  | [] => rfl
  | ⟨e, s⟩ :: es => by
      rw [countCallsList, treeList, findList, List.length_append, countCalls_eq_length s e,
        countCallsList_eq_length es]

end

/-- Looking no further than the first call is enough. -/
theorem containsCalls_iff : (e : Expr) → (e.containsCalls ↔ 0 < e.countCalls)
  | .call ⟨_, _⟩ _ _ => by
      rw [containsCalls, countCalls]
      exact iff_of_true rfl (Nat.lt_add_right _ Nat.one_pos)
  | .binary _ ⟨l, _⟩ ⟨r, _⟩ => by
      rw [containsCalls, countCalls, Bool.or_eq_true, containsCalls_iff l, containsCalls_iff r]
      omega
  | .lookup ⟨a, _⟩ ⟨i, _⟩ => by
      rw [containsCalls, countCalls, Bool.or_eq_true, containsCalls_iff a, containsCalls_iff i]
      omega
  | .length ⟨a, _⟩ => by rw [containsCalls, countCalls, containsCalls_iff a]
  | .newArray ⟨n, _⟩ => by rw [containsCalls, countCalls, containsCalls_iff n]
  | .not ⟨e, _⟩ => by rw [containsCalls, countCalls, containsCalls_iff e]
  | .int _ | .bool _ | .var _ | .this | .newObject _ => by simp [containsCalls, countCalls]

def varName? : Located Expr → Option String
  | ⟨.var name, _⟩ => some name
  | _ => none

/-- Add the names to those already seen, each once. -/
def insertAll (seen names : List String) : List String :=
  names.foldl (fun seen name => seen.insert name) seen

mutual

theorem gatherVars_eq (span : Span) : (e : Expr) → (seen : List String) →
    e.gatherVars seen = insertAll seen (select varName? (tree ⟨e, span⟩))
  | .var name, seen => rfl
  | .call ⟨r, s⟩ _ args, seen => by
      simp [gatherVars, tree, subtrees, varName?, insertAll, gatherVars_eq s r,
        gatherVarsList_eq args]
  | .binary _ ⟨l, s⟩ ⟨r, t⟩, seen => by
      simp [gatherVars, tree, subtrees, varName?, insertAll, gatherVars_eq s l, gatherVars_eq t r]
  | .lookup ⟨a, s⟩ ⟨i, t⟩, seen => by
      simp [gatherVars, tree, subtrees, varName?, insertAll, gatherVars_eq s a, gatherVars_eq t i]
  | .length ⟨a, s⟩, seen => by
      simp [gatherVars, tree, subtrees, varName?, gatherVars_eq s a]
  | .newArray ⟨n, s⟩, seen => by
      simp [gatherVars, tree, subtrees, varName?, gatherVars_eq s n]
  | .not ⟨e, s⟩, seen => by
      simp [gatherVars, tree, subtrees, varName?, gatherVars_eq s e]
  | .int _, _ | .bool _, _ | .this, _ | .newObject _, _ => rfl

theorem gatherVarsList_eq : (es : List (Located Expr)) → (seen : List String) →
    gatherVarsList es seen = insertAll seen (selectList varName? (treeList es))
  | [], _ => rfl
  | ⟨e, s⟩ :: es, seen => by
      simp [gatherVarsList, treeList, insertAll, gatherVars_eq s e, gatherVarsList_eq es]

end

theorem mem_insertAll {name : String} {seen names : List String} :
    name ∈ insertAll seen names ↔ name ∈ seen ∨ name ∈ names := by
  induction names generalizing seen with
  | nil => simp [insertAll]
  | cons n names ih =>
      have hstep : insertAll seen (n :: names) = insertAll (seen.insert n) names := rfl
      rw [hstep, ih, List.mem_insert_iff, List.mem_cons]
      tauto

theorem nodup_insertAll {seen : List String} (h : seen.Nodup) (names : List String) :
    (insertAll seen names).Nodup := by
  induction names generalizing seen with
  | nil => exact h
  | cons n names ih => exact ih h.insert

theorem mem_select_varName? {name : String} {t : Tree (Located Expr)} :
    name ∈ select varName? t ↔ ∃ span, ⟨.var name, span⟩ ∈ t.find (isA .var) := by
  rw [select, find_eq_filter, List.mem_filterMap]
  constructor
  · rintro ⟨⟨e, span⟩, he, hname⟩
    cases e with
    | var n =>
        cases hname
        exact ⟨span, List.mem_filter.mpr ⟨he, rfl⟩⟩
    | _ => cases hname
  · rintro ⟨span, h⟩
    exact ⟨⟨.var name, span⟩, (List.mem_filter.mp h).1, rfl⟩

theorem mem_vars {e : Located Expr} {name : String} :
    name ∈ e.node.vars ↔ ∃ span, ⟨.var name, span⟩ ∈ (tree e).find (isA .var) := by
  rw [vars, (List.mergeSort_perm _ _).mem_iff, gatherVars_eq e.span, mem_insertAll,
    mem_select_varName?]
  exact or_iff_right List.not_mem_nil

theorem vars_ascending (e : Located Expr) : e.node.vars.Pairwise (· < ·) := by
  have hsorted : e.node.vars.Pairwise (· ≤ ·) := by
    refine (List.pairwise_mergeSort ?_ ?_ _).imp of_decide_eq_true
    · intro a b c hab hbc
      exact decide_eq_true (String.le_trans (of_decide_eq_true hab) (of_decide_eq_true hbc))
    · intro a b
      rw [Bool.or_eq_true, decide_eq_true_iff, decide_eq_true_iff]
      exact String.le_total a b
  have hnodup : e.node.vars.Nodup := by
    rw [vars, (List.mergeSort_perm _ _).nodup_iff, gatherVars_eq e.span]
    exact nodup_insertAll .nil _
  exact (hsorted.and hnodup).imp fun h => Std.lt_of_le_of_ne h.1 h.2

/-- The queries on an expression agree with its nodes in preorder. A search for a predicate finds
those that satisfy it; whether any do or all do is what a walk finds out that stops at the first
that settles it, and what the search says. The calls counted are the calls found, an expression has
calls if there is one, and its variables are the names of the variables found, each once in
ascending order. -/
theorem queries_agree_with_walks (e : Located Expr) :
    tree e = .node e (e.node.children.map tree) ∧
    (∀ p : Located Expr → Bool,
      (tree e).find p = (tree e).preorder.filter p ∧
      ((tree e).any p ↔ (tree e).find p ≠ []) ∧
      ((tree e).all p ↔ (tree e).find (fun s => !p s) = []) ∧
      (tree e).any p = flagOf ((tree e).walk (answerAt p true) false) ∧
      (tree e).all p = flagOf ((tree e).walk (answerAt (fun s => !p s) false) true)) ∧
    e.node.countCalls = ((tree e).find (isA .call)).length ∧
    (e.node.containsCalls ↔ 0 < e.node.countCalls) ∧
    e.node.vars.Pairwise (· < ·) ∧
    ∀ name, name ∈ e.node.vars ↔ ∃ span, ⟨.var name, span⟩ ∈ (tree e).find (isA .var) := by
  refine ⟨tree_eq e, fun p => ?_, countCalls_eq_length e.span e.node, containsCalls_iff e.node,
    vars_ascending e, fun name => mem_vars⟩
  have hfind := find_eq_filter p (tree e)
  exact ⟨hfind, any_iff_find p _, all_iff_find p _, any_eq_flag p _, all_eq_flag p _⟩

end Expr

end MiniJava
