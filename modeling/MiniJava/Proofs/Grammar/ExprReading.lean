import MiniJava.Proofs.Grammar.ExprParser

/-!
The parser reads nothing but what the grammar allows: the tokens it has taken derive the expression
it hands back. With the converse, to be parsed as an expression and to be derived for it are one.
-/
namespace MiniJava

namespace Parse

/-! ## Reading a front part of the tokens -/

section Reads

variable {α β : Type} {ts us : List Token} {P : List Token → α → Prop} {Q : List Token → β → Prop}
  {read : Option (α × List Token)}

/-- What is read, if anything, takes up a front part of the tokens, and the two are related. -/
def Reads (ts : List Token) (P : List Token → α → Prop) (read : Option (α × List Token)) : Prop :=
  ∀ a rest, read = some (a, rest) → ∃ us, ts = us ++ rest ∧ P us a

theorem Reads.none : Reads ts P none := by
  intro a rest h
  cases h

/-- Reading may take nothing. -/
theorem Reads.nothing {a : α} (h : P [] a) : Reads ts P (some (a, ts)) := by
  intro a' rest heq
  cases heq
  exact ⟨[], rfl, h⟩

theorem Reads.imp {P' : List Token → α → Prop} (h : Reads ts P read)
    (hp : ∀ us a, P us a → P' us a) : Reads ts P' read := by
  intro a rest heq
  obtain ⟨us, hts, ha⟩ := h a rest heq
  exact ⟨us, hts, hp us a ha⟩

/-- Tokens that are taken first belong to what is read. -/
theorem Reads.after (us : List Token) (h : Reads ts (fun vs => P (us ++ vs)) read) :
    Reads (us ++ ts) P read := by
  intro a rest heq
  obtain ⟨vs, rfl, ha⟩ := h a rest heq
  exact ⟨us ++ vs, (List.append_assoc us vs rest).symm, ha⟩

/-- What is made of the value that was read, with nothing more taken. -/
theorem Reads.map {f : α × List Token → β × List Token} (h : Reads ts P read)
    (hf : ∀ us a rest, P us a → ∃ b, f (a, rest) = (b, rest) ∧ Q us b) :
    Reads ts Q (read.map f) := by
  intro b rest heq
  obtain ⟨⟨a, rest'⟩, hread, hpair⟩ := Option.map_eq_some_iff.mp heq
  obtain ⟨us, hts, ha⟩ := h a rest' hread
  obtain ⟨b', hf, hb⟩ := hf us a rest' ha
  rw [hf] at hpair
  cases hpair
  exact ⟨us, hts, hb⟩

theorem Reads.closedBy (t : Token) (h : Reads ts P read) :
    Reads ts (fun us a => ∃ vs, us = vs ++ [t] ∧ P vs a) (closedBy t read) := by
  intro a rest heq
  unfold Parse.closedBy at heq
  split at heq
  · rename_i a' t' rest'
    split at heq
    · rename_i ht
      cases heq
      obtain ⟨us, hts, ha⟩ := h a (t' :: rest) rfl
      exact ⟨us ++ [t], by rw [hts, ht, List.append_assoc, List.singleton_append], us, rfl, ha⟩
    · cases heq
  · cases heq

theorem Reads.andThen {next : α → (rest : List Token) → rest.length < ts.length →
      Option (β × List Token)} (h : Reads ts P read)
    (hnext : ∀ us a rest hlt, P us a → Reads rest (fun vs => Q (us ++ vs)) (next a rest hlt)) :
    Reads ts Q (andThen ts read next) := by
  intro b rest heq
  unfold Parse.andThen at heq
  split at heq
  · rename_i a rest'
    split at heq
    · rename_i hlt
      obtain ⟨us, hts, ha⟩ := h a rest' rfl
      obtain ⟨vs, hrest, hb⟩ := hnext us a rest' hlt ha b rest heq
      exact ⟨us ++ vs, by rw [hts, hrest, List.append_assoc], hb⟩
    · cases heq
  · cases heq

end Reads

/-! ## What the parser reads -/

theorem operator?_eq_some {n : Nat} {t : Token} {op : BinaryOp} (h : operator? n t = some op) :
    t = .symbol op.sign ∧ op.level = n := by
  obtain ⟨htoken, hlevel⟩ := Option.filter_eq_some_iff.mp h
  exact ⟨BinaryOp.eq_of_ofToken? htoken, of_decide_eq_true hlevel⟩

open MiniJava.Expr

mutual

theorem expr_reads {n : Nat} (hn : n ≤ 7) (ts : List Token) :
    Reads ts (Derives n) (expr n ts) := by
  rw [expr]
  split
  · rename_i h5
    refine (expr_reads (Nat.succ_le_of_lt (Nat.lt_of_lt_of_le h5 (by decide))) ts).andThen ?_
    intro us e rest _ he
    exact operators_reads h5 (.tighter (by omega) he) rest
  · split
    · rename_i h5
      subst h5
      exact unary_reads ts
    · split
      · rename_i h6
        subst h6
        refine (atom_reads ts).andThen ?_
        intro us e rest _ he
        exact suffixes_reads (.tighter (by decide) he) rest
      · have h7 : n = 7 := by omega
        rw [h7]
        exact atom_reads ts
termination_by (ts.length, 2 * (8 - n) + 1)
decreasing_by all_goals (subst_vars; simp_wf; omega)

/-- The operators go on with an expression that has been read already. -/
theorem operators_reads {n : Nat} (hn : n < 5) {vs : List Token} {left : Expr}
    (hl : left.Derives n vs) (ts : List Token) :
    Reads ts (fun us e => e.Derives n (vs ++ us)) (operators n left ts) := by
  cases ts with
  | nil =>
      rw [operators]
      exact .nothing (by rwa [List.append_nil])
  | cons t ts =>
      rw [operators]
      split
      · rename_i op hop
        obtain ⟨rfl, rfl⟩ := operator?_eq_some hop
        refine .after [.symbol op.sign] ((expr_reads (by omega) ts).andThen ?_)
        intro us right rest _ hr
        refine (operators_reads hn (.binary op hl hr) rest).imp fun ws e he => ?_
        simpa using he
      · exact .nothing (by rwa [List.append_nil])
termination_by (ts.length, 0)
decreasing_by all_goals (subst_vars; simp_wf; omega)

theorem unary_reads (ts : List Token) : Reads ts (Derives 5) (unary ts) := by
  rw [unary.eq_def]
  split
  · rename_i ts
    refine .after [.symbol .not] ?_
    exact (expr_reads (by decide) ts).map fun us e _ he => ⟨_, rfl, .not he⟩
  · rename_i ts
    refine .after [.keyword .new, .keyword .int, .symbol .leftBracket] ?_
    refine ((expr_reads (by decide) ts).closedBy _).map ?_
    rintro us e _ ⟨vs, rfl, he⟩
    exact ⟨_, rfl, .newArray he⟩
  · exact (expr_reads (by decide) ts).imp fun us e he => .tighter (by decide) he
termination_by (ts.length, 6)
decreasing_by all_goals (subst_vars; simp_wf; omega)

/-- What is put after an expression that has been read already. -/
theorem suffixes_reads {vs : List Token} {e : Expr} (he : e.Derives 6 vs) (ts : List Token) :
    Reads ts (fun us e' => e'.Derives 6 (vs ++ us)) (suffixes e ts) := by
  rw [suffixes.eq_def]
  split
  · rename_i ts
    refine .after [.symbol .leftBracket] (((expr_reads (by decide) ts).closedBy _).andThen ?_)
    rintro us index rest _ ⟨ws, rfl, hi⟩
    refine (suffixes_reads (.lookup he hi) rest).imp fun us' e' he' => ?_
    simpa using he'
  · rename_i ts
    refine .after [.symbol .dot, .keyword .length] ?_
    refine (suffixes_reads (.length he) ts).imp fun us e' he' => ?_
    simpa using he'
  · rename_i method ts
    refine .after [.symbol .dot, .name method, .symbol .leftParen] ?_
    refine ((arguments_reads ts).closedBy _).andThen ?_
    rintro us args rest _ ⟨ws, rfl, hargs⟩
    refine (suffixes_reads (.call (.nowhere method) he hargs) rest).imp fun us' e' he' => ?_
    simpa [Located.nowhere] using he'
  · exact .nothing (by rwa [List.append_nil])
termination_by (ts.length, 0)
decreasing_by all_goals (subst_vars; simp_wf; omega)

theorem arguments_reads (ts : List Token) : Reads ts DerivesArgs (arguments ts) := by
  rw [arguments.eq_def]
  split
  · exact .nothing .nil
  · refine (expr_reads (by decide) ts).andThen ?_
    intro us e rest _ he
    exact (moreArguments_reads he rest).map fun vs es _ hes => ⟨_, rfl, hes⟩
termination_by (ts.length, 16)
decreasing_by all_goals (subst_vars; simp_wf; omega)

/-- The arguments after one that has been read already. -/
theorem moreArguments_reads {vs : List Token} {e : Expr} (he : e.Derives 1 vs) (ts : List Token) :
    Reads ts (fun us es => DerivesArgs (vs ++ us) (.nowhere e :: es)) (moreArguments ts) := by
  rw [moreArguments.eq_def]
  split
  · rename_i ts
    refine .after [.symbol .comma] ((expr_reads (by decide) ts).andThen ?_)
    intro us next rest _ hnext
    refine (moreArguments_reads hnext rest).map fun ws es _ hes => ⟨_, rfl, ?_⟩
    simpa [Located.nowhere] using DerivesArgs.cons he hes
  · exact .nothing (by rw [List.append_nil]; exact .single he)
termination_by (ts.length, 0)
decreasing_by all_goals (subst_vars; simp_wf; omega)

theorem atom_reads (ts : List Token) : Reads ts (Derives 7) (atom ts) := by
  rw [atom.eq_def]
  split
  · rename_i value ts
    cases hvalue : Word.signed? value with
    | none => exact .none
    | some v =>
        have htoken := Derives.int v
        rw [Word.toInt_of_signed? hvalue] at htoken
        exact .after [_] (.nothing htoken)
  · exact .after [_] (.nothing (.bool true))
  · exact .after [_] (.nothing (.bool false))
  · exact .after [_] (.nothing .this)
  · rename_i name ts
    exact .after [_] (.nothing (.var name))
  · rename_i className ts
    exact .after [_, _, _, _] (.nothing (.newObject (.nowhere className)))
  · rename_i ts
    refine .after [.symbol .leftParen] (((expr_reads (by decide) ts).closedBy _).imp ?_)
    rintro us e ⟨vs, rfl, he⟩
    exact .parens he
  · exact .none
termination_by (ts.length, 0)
decreasing_by all_goals (subst_vars; simp_wf; omega)

end

theorem derives_of_expression {ts : List Token} {e : Expr} (h : expression ts = some e) :
    e.Derives 1 ts := by
  unfold expression whole at h
  split at h
  · rename_i hread
    cases h
    obtain ⟨us, hts, he⟩ := expr_reads (by decide) ts e [] hread
    rwa [hts, List.append_nil]
  · cases h

end Parse

end MiniJava
