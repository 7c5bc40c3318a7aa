import MiniJava.Proofs.Tree.Walk

/-!
The calls that a walk makes of its action. An action may change a state and may fail. A walk calls
it with values in a fixed order and stops with the first call that fails, so what it does is known
from that order alone.
-/
namespace MiniJava

variable {α ε σ : Type}

/-- Calls of an action, made from a state one after the other, and what comes of them. A call that
fails is the last one. -/
inductive Calls (act : α → EStateM ε σ Unit) : σ → List α → EStateM.Result ε σ Unit → Prop
  | none {s : σ} : Calls act s [] (.ok () s)
  | failed {s s' : σ} {a : α} {e : ε} (h : act a s = .error e s') : Calls act s [a] (.error e s')
  | next {s s' : σ} {a : α} {as : List α} {r : EStateM.Result ε σ Unit}
    (h : act a s = .ok () s') (rest : Calls act s' as r) : Calls act s (a :: as) r

/-- The result, with a record of calls beside the state. -/
def withCalls (calls : List α) : EStateM.Result ε σ Unit → EStateM.Result ε (σ × List α) Unit
  | .ok () s => .ok () (s, calls)
  | .error e s => .error e (s, calls)

/-- The action, which also keeps a record of the values that it is called with. -/
def recorded (act : α → EStateM ε σ Unit) (a : α) : EStateM ε (σ × List α) Unit :=
  fun (s, calls) => withCalls (calls ++ [a]) (act a s)

/-- The walk calls its action with the first so many values in the order, and no other: with all of
them if no call fails, and else up to the first that fails, whose error it gives. -/
def StopsAtFirstError (walk : (m : Type → Type) → [Monad m] → (α → m Unit) → m Unit)
    (order : List α) : Prop :=
  ∀ (ε σ : Type) (act : α → EStateM ε σ Unit) (s : σ), ∃ calls,
    walk _ (recorded act) (s, []) = withCalls calls (walk _ act s) ∧
      Calls act s calls (walk _ act s) ∧ calls <+: order ∧
      ∀ s', walk _ act s = .ok () s' → calls = order

theorem recorded_eq (act : α → EStateM ε σ Unit) (a : α) (s : σ) (calls : List α) :
    recorded act a (s, calls) = withCalls (calls ++ [a]) (act a s) := rfl

section

variable {act : α → EStateM ε σ Unit} {a : α} {s s' : σ}

theorem forM_cons_of_ok (h : act a s = .ok () s') (as : List α) :
    (a :: as).forM act s = as.forM act s' := by
  show (act a >>= fun _ => as.forM act) s = as.forM act s'
  simp [bind, EStateM.bind, h]

theorem forM_cons_of_error {e : ε} (h : act a s = .error e s') (as : List α) :
    (a :: as).forM act s = .error e s' := by
  show (act a >>= fun _ => as.forM act) s = .error e s'
  simp [bind, EStateM.bind, h]

end

theorem forM_recorded (act : α → EStateM ε σ Unit) (as before : List α) (s : σ) : ∃ calls,
    as.forM (recorded act) (s, before) = withCalls (before ++ calls) (as.forM act s) ∧
      Calls act s calls (as.forM act s) ∧ calls <+: as ∧
      ∀ s', as.forM act s = .ok () s' → calls = as := by
  induction as generalizing before s with
  | nil =>
      refine ⟨[], ?_, .none, List.prefix_refl [], fun _ _ => rfl⟩
      rw [List.append_nil]
      rfl
  | cons a as ih =>
      have hrecord := recorded_eq act a s before
      cases ha : act a s with
      | error e s' =>
          rw [ha] at hrecord
          rw [forM_cons_of_error ha, forM_cons_of_error hrecord]
          exact ⟨[a], rfl, .failed ha, by simp, nofun⟩
      | ok u s' =>
          rw [ha] at hrecord
          obtain ⟨calls, hrest, hcalls, hprefix, hall⟩ := ih (before ++ [a]) s'
          rw [forM_cons_of_ok ha, forM_cons_of_ok hrecord, hrest, List.append_assoc]
          exact ⟨a :: calls, rfl, .next ha hcalls, List.cons_prefix_cons.mpr ⟨rfl, hprefix⟩,
            fun s'' h => congrArg (a :: ·) (hall s'' h)⟩

/-- A walk that calls its action with the values of a list, whatever the monad. -/
theorem StopsAtFirstError.of_forM {walk : (m : Type → Type) → [Monad m] → (α → m Unit) → m Unit}
    {order : List α}
    (h : ∀ (ε σ : Type) (act : α → EStateM ε σ Unit), walk _ act = order.forM act) :
    StopsAtFirstError walk order := by
  intro ε σ act s
  rw [h, h]
  exact forM_recorded act order [] s

namespace Tree

/-! ## Places in a tree -/

mutual

/-- The tree with every value at its address: the positions among siblings on the way down to it. -/
def addressed (address : List Nat) : Tree α → Tree (List Nat × α)
  | .node value children => .node (address, value) (addressedList address 0 children)

def addressedList (address : List Nat) (i : Nat) : List (Tree α) → List (Tree (List Nat × α))
  | [] => []
  | t :: ts => addressed (address ++ [i]) t :: addressedList address (i + 1) ts

end

mutual

theorem preorder_addressed (address : List Nat) :
    (t : Tree α) → (t.addressed address).preorder.map Prod.snd = t.preorder
  | .node value children => by
      rw [addressed, preorder, preorder, List.map_cons, preorderList_addressed address 0 children]

theorem preorderList_addressed (address : List Nat) (i : Nat) :
    (ts : List (Tree α)) →
    (preorderList (addressedList address i ts)).map Prod.snd = preorderList ts
  | [] => by rw [addressedList, preorderList, preorderList, List.map_nil]
  | t :: ts => by
      rw [addressedList, preorderList, preorderList, List.map_append, preorder_addressed _ t,
        preorderList_addressed address (i + 1) ts]

end

mutual

theorem postorder_addressed (address : List Nat) :
    (t : Tree α) → (t.addressed address).postorder.map Prod.snd = t.postorder
  | .node value children => by
      rw [addressed, postorder, postorder, List.map_append,
        postorderList_addressed address 0 children]
      rfl

theorem postorderList_addressed (address : List Nat) (i : Nat) :
    (ts : List (Tree α)) →
    (postorderList (addressedList address i ts)).map Prod.snd = postorderList ts
  | [] => by rw [addressedList, postorderList, postorderList, List.map_nil]
  | t :: ts => by
      rw [addressedList, postorderList, postorderList, List.map_append, postorder_addressed _ t,
        postorderList_addressed address (i + 1) ts]

end

mutual

theorem preorder_perm_postorder : (t : Tree α) → t.preorder.Perm t.postorder
  | .node value children => by
      rw [preorder, postorder]
      exact ((preorderList_perm_postorderList children).cons value).trans
        (List.perm_append_singleton value _).symm

theorem preorderList_perm_postorderList :
    (ts : List (Tree α)) → (preorderList ts).Perm (postorderList ts)
  | [] => by rw [preorderList, postorderList]
  | t :: ts => by
      rw [preorderList, postorderList]
      exact (preorder_perm_postorder t).append (preorderList_perm_postorderList ts)

end

mutual

theorem prefix_of_mem_addressed {address : List Nat} {l : List Nat × α} :
    (t : Tree α) → l ∈ (t.addressed address).preorder → address <+: l.1
  | .node value children, h => by
      rw [addressed, preorder, List.mem_cons] at h
      obtain rfl | h := h
      · exact List.prefix_refl address
      · obtain ⟨j, -, hj⟩ := prefix_of_mem_addressedList children h
        exact (List.prefix_append address [j]).trans hj

theorem prefix_of_mem_addressedList {address : List Nat} {i : Nat} {l : List Nat × α} :
    (ts : List (Tree α)) → l ∈ preorderList (addressedList address i ts) →
    ∃ j, i ≤ j ∧ address ++ [j] <+: l.1
  | [], h => by simp [addressedList, preorderList] at h
  | t :: ts, h => by
      rw [addressedList, preorderList, List.mem_append] at h
      obtain h | h := h
      · exact ⟨i, Nat.le_refl i, prefix_of_mem_addressed t h⟩
      · obtain ⟨j, hij, hj⟩ := prefix_of_mem_addressedList ts h
        exact ⟨j, Nat.le_of_succ_le hij, hj⟩

end

theorem not_prefix_above {address p : List Nat} {j : Nat} (h : address ++ [j] <+: p) :
    ¬ p <+: address := by
  intro hp
  have hlength := (h.trans hp).length_le
  rw [List.length_append, List.length_singleton] at hlength
  omega

theorem not_prefix_beside {address p q : List Nat} {i j : Nat} (hp : address ++ [i] <+: p)
    (hq : address ++ [j] <+: q) (hne : i ≠ j) : ¬ p <+: q := by
  intro hpq
  have hprefix : address ++ [i] <+: address ++ [j] :=
    List.prefix_of_prefix_length_le (hp.trans hpq) hq (by simp)
  exact hne (by simpa using hprefix.eq_of_length (by simp))

mutual

/-- In preorder no value comes after one below it. -/
theorem pairwise_preorder (address : List Nat) :
    (t : Tree α) → (t.addressed address).preorder.Pairwise fun l l' => ¬ l'.1 <+: l.1
  | .node value children => by
      rw [addressed, preorder, List.pairwise_cons]
      refine ⟨fun l hl => ?_, pairwise_preorderList address 0 children⟩
      obtain ⟨j, -, hj⟩ := prefix_of_mem_addressedList children hl
      exact not_prefix_above hj

theorem pairwise_preorderList (address : List Nat) (i : Nat) :
    (ts : List (Tree α)) →
    (preorderList (addressedList address i ts)).Pairwise fun l l' => ¬ l'.1 <+: l.1
  | [] => by simp [addressedList, preorderList]
  | t :: ts => by
      rw [addressedList, preorderList, List.pairwise_append]
      refine ⟨pairwise_preorder _ t, pairwise_preorderList address (i + 1) ts, ?_⟩
      intro l hl l' hl'
      obtain ⟨j, hij, hj⟩ := prefix_of_mem_addressedList ts hl'
      exact not_prefix_beside hj (prefix_of_mem_addressed t hl) (Nat.ne_of_gt hij)

end

mutual

/-- In postorder no value comes before one below it. -/
theorem pairwise_postorder (address : List Nat) :
    (t : Tree α) → (t.addressed address).postorder.Pairwise fun l l' => ¬ l.1 <+: l'.1
  | .node value children => by
      rw [addressed, postorder, List.pairwise_append]
      refine ⟨pairwise_postorderList address 0 children, List.pairwise_singleton _ _, ?_⟩
      intro l hl l' hl'
      rw [← (preorderList_perm_postorderList _).mem_iff] at hl
      obtain ⟨j, -, hj⟩ := prefix_of_mem_addressedList children hl
      rw [List.mem_singleton.mp hl']
      exact not_prefix_above hj

theorem pairwise_postorderList (address : List Nat) (i : Nat) :
    (ts : List (Tree α)) →
    (postorderList (addressedList address i ts)).Pairwise fun l l' => ¬ l.1 <+: l'.1
  | [] => by simp [addressedList, postorderList]
  | t :: ts => by
      rw [addressedList, postorderList, List.pairwise_append]
      refine ⟨pairwise_postorder _ t, pairwise_postorderList address (i + 1) ts, ?_⟩
      intro l hl l' hl'
      rw [← (preorder_perm_postorder _).mem_iff] at hl
      rw [← (preorderList_perm_postorderList _).mem_iff] at hl'
      obtain ⟨j, hij, hj⟩ := prefix_of_mem_addressedList ts hl'
      exact not_prefix_beside (prefix_of_mem_addressed t hl) hj (Nat.ne_of_lt hij)

end

/-! ## Walks -/

/-- The walks of a tree, each with the order that it goes in. Both orders have every place of the
tree once, and what is at a place comes before all that is below it in the one and after all that is
below it in the other. -/
structure WalkedInOrder (t : Tree α) : Prop where
  walk : StopsAtFirstError (fun _ _ act => t.walk act) t.preorder
  walkPost : StopsAtFirstError (fun _ _ act => t.walkPost act) t.postorder
  preorder_places : (t.addressed []).preorder.map Prod.snd = t.preorder
  postorder_places : (t.addressed []).postorder.map Prod.snd = t.postorder
  perm : (t.addressed []).preorder.Perm (t.addressed []).postorder
  before_below : (t.addressed []).preorder.Pairwise fun l l' => ¬ l'.1 <+: l.1
  after_below : (t.addressed []).postorder.Pairwise fun l l' => ¬ l.1 <+: l'.1

theorem walkedInOrder (t : Tree α) : t.WalkedInOrder where
  walk := .of_forM fun _ _ act => walk_eq_forM act t
  walkPost := .of_forM fun _ _ act => walkPost_eq_forM act t
  preorder_places := preorder_addressed [] t
  postorder_places := postorder_addressed [] t
  perm := preorder_perm_postorder (t.addressed [])
  before_below := pairwise_preorder [] t
  after_below := pairwise_postorder [] t

end Tree

end MiniJava
