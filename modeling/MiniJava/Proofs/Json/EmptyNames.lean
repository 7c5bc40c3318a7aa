import MiniJava.Proofs.Json.NameLists

/-!
Documents with an empty list of names. No such document is read, whatever stands beside the list:
the reader of the declaration gives an error, and no reader on the way to it drops one.
-/
namespace MiniJava

namespace Json

/-- The second document has an empty list of names where the first has any list of names. On the way
there it has items in its arrays and members in its objects that the first has too; what else it has
there does not matter, but no other members of these names. -/
inductive Emptied : Json → Json → Prop where
  | list {ms ms' : List (String × Json)} {v : Json} : ("identifiers", v) ∈ ms →
      membersOf "identifiers" ms' = [("identifiers", .array [])] →
      Emptied (.object ms) (.object ms')
  | member {ms ms' : List (String × Json)} {name : String} {v v' : Json} : (name, v) ∈ ms →
      name ≠ "identifiers" → Emptied v v' → membersOf name ms' = [(name, v')] →
      Emptied (.object ms) (.object ms')
  | item {items items' : List Json} {v v' : Json} : v ∈ items → Emptied v v' → v' ∈ items' →
      Emptied (.array items) (.array items')

/-- In the members of an object there is this one, with an empty list of names in it. -/
def Empties (ms : List (String × Json)) (m : String × Json) : Prop :=
  if m.1 = "identifiers" then membersOf m.1 ms = [(m.1, .array [])]
  else ∃ v, Emptied m.2 v ∧ membersOf m.1 ms = [(m.1, v)]

theorem Empties.emptied {ms ms' : List (String × Json)} {m : String × Json} (hm : m ∈ ms)
    (h : Empties ms' m) : Emptied (.object ms) (.object ms') := by
  obtain ⟨name, v⟩ := m
  rw [Empties] at h
  split at h
  · rename_i hname
    cases hname
    exact .list hm h
  · rename_i hname
    obtain ⟨v', hv, hms⟩ := h
    exact .member hm hname hv hms

mutual

theorem emptied_of_mem {j : Json} : (doc : Json) → doc.Distinct → j ∈ doc.emptied → Emptied doc j
  | .array items, hd, hj => by
      rw [Distinct] at hd
      rw [emptied, List.mem_map] at hj
      obtain ⟨items', hitems, rfl⟩ := hj
      obtain ⟨v, hv, v', hv', h⟩ := emptiedIn_of_mem items hd hitems
      exact .item hv h hv'
  | .object ms, hd, hj => by
      rw [Distinct] at hd
      rw [emptied, List.mem_map] at hj
      obtain ⟨ms', hms, rfl⟩ := hj
      obtain ⟨m, hm, h⟩ := emptiedOf_of_mem ms hd.1 hd.2 hms
      exact h.emptied hm
  | .null, _, hj | .bool _, _, hj | .int _, _, hj | .float _, _, hj | .string _, _, hj => by
      rw [emptied] at hj
      cases hj

theorem emptiedIn_of_mem {items' : List Json} : (items : List Json) → DistinctIn items →
    items' ∈ emptiedIn items → ∃ v ∈ items, ∃ v' ∈ items', Emptied v v'
  | [], _, hj => by
      rw [emptiedIn] at hj
      cases hj
  | v :: vs, hd, hj => by
      rw [DistinctIn] at hd
      rw [emptiedIn, List.mem_append, List.mem_map, List.mem_map] at hj
      obtain ⟨v', hv', rfl⟩ | ⟨vs', hvs, rfl⟩ := hj
      · exact ⟨v, List.mem_cons_self, v', List.mem_cons_self, emptied_of_mem v hd.1 hv'⟩
      · obtain ⟨w, hw, w', hw', h⟩ := emptiedIn_of_mem vs hd.2 hvs
        exact ⟨w, List.mem_cons_of_mem v hw, w', List.mem_cons_of_mem v hw', h⟩

theorem emptiedOf_of_mem {ms' : List (String × Json)} : (ms : List (String × Json)) →
    (ms.map Prod.fst).Nodup → DistinctOf ms → ms' ∈ emptiedOf ms → ∃ m ∈ ms, Empties ms' m
  | [], _, _, hj => by
      rw [emptiedOf] at hj
      cases hj
  | (name, v) :: ms, hn, hd, hj => by
      rw [DistinctOf] at hd
      obtain ⟨hnot, hn⟩ := List.nodup_cons.mp hn
      rw [emptiedOf, List.mem_append, List.mem_map, List.mem_map] at hj
      obtain ⟨v', hv', rfl⟩ | ⟨ms', hms, rfl⟩ := hj
      · have hfound : membersOf name ((name, v') :: ms) = [(name, v')] := by
          rw [membersOf, List.filter_cons_of_pos (by simp)]
          exact congrArg _ (membersOf_eq_nil hnot)
        refine ⟨(name, v), List.mem_cons_self, ?_⟩
        rw [Empties]
        split
        · rename_i hname
          rw [if_pos hname, List.mem_singleton] at hv'
          rw [hfound, hv']
        · rename_i hname
          rw [if_neg hname] at hv'
          exact ⟨v', emptied_of_mem v hd.1 hv', hfound⟩
      · obtain ⟨m, hm, h⟩ := emptiedOf_of_mem ms hn hd.2 hms
        have hne : m.1 ≠ name := ne_of_mem_of_not_mem (List.mem_map_of_mem hm) hnot
        refine ⟨m, List.mem_cons_of_mem _ hm, ?_⟩
        rwa [Empties, membersOf, List.filter_cons_of_neg (by simpa using hne.symm), ← membersOf,
          ← Empties]

end

/-- Only where there is a list of names can one be empty. -/
theorem Emptied.nameLists_ne_nil {doc j : Json} (h : Emptied doc j) : doc.nameLists ≠ [] := by
  have hitem {vs : List Json} {v : Json} (hv : v ∈ vs) (hne : v.nameLists ≠ []) :
      nameListsIn vs ≠ [] := by
    obtain ⟨before, after, rfl⟩ := List.append_of_mem hv
    induction before with
    | nil => simp [nameListsIn, hne]
    | cons w ws ih => simp [nameListsIn, ih]
  have hmember {ms : List (String × Json)} {m : String × Json} (hm : m ∈ ms)
      (hne : (if m.1 = "identifiers" then [m.2] else m.2.nameLists) ≠ []) :
      nameListsOf ms ≠ [] := by
    obtain ⟨before, after, rfl⟩ := List.append_of_mem hm
    induction before with
    | nil => simp [nameListsOf, hne]
    | cons n ns ih => simp [nameListsOf, ih]
  induction h with
  | list hm _ =>
      rw [nameLists]
      exact hmember hm (by simp)
  | member hm hname _ _ ih =>
      rw [nameLists]
      exact hmember hm (by simpa [hname] using ih)
  | item hv _ _ ih =>
      rw [nameLists]
      exact hitem hv ih

theorem Emptied.located {j j' : Json} (h : Emptied j j') (s s' : Span) :
    Emptied (located j s) (located j' s') :=
  .member List.mem_cons_self (by decide) h rfl

theorem Emptied.tagged {j j' : Json} (h : Emptied j j') {name : String}
    (hname : name ≠ "identifiers" := by decide) : Emptied (tagged name j) (tagged name j') :=
  .member (List.mem_singleton_self _) hname h (by simp [membersOf])

/-! ## Readers that give an error -/

variable {α β : Type}

/-- No document in which one of the lists of names is empty can be read. -/
def Rejects (read : Json → Decode α) (doc : Json) : Prop :=
  ∀ j, Emptied doc j → ∃ e, read j = .error e

/-- From an object in which one of these members has an empty list of names in it, the fields cannot
be read. -/
def Fails (ms : List (String × Json)) (read : (j : Json) → Fields j → Except Fault α) : Prop :=
  ∀ ms', (∃ m ∈ ms, Empties ms' m) →
    ∃ fault, read (.object ms') (.named (namedParts ms')) = .error fault

/-- The only member of a name is what the field has for a value. -/
theorem value?_of_membersOf {ms : List (String × Json)} {name : String} {v : Json}
    (h : membersOf name ms = [(name, v)]) (position : Nat) :
    ∃ part, (Fields.named (namedParts ms)).value? position name = some part ∧ part.1 = v := by
  have hvalue := value?_named ms position name
  rw [h] at hvalue
  exact Option.map_eq_some_iff.mp hvalue

namespace Fails

variable {ms : List (String × Json)} {m : String × Json} {v : Json} {read : Json → Decode α}
  {name : String} {position : Nat}

theorem map {read : (j : Json) → Fields j → Except Fault α} (h : Fails ms read) (f : α → β) :
    Fails ms fun j fs => (read j fs).map f := by
  intro ms' hms
  obtain ⟨fault, hfault⟩ := h ms' hms
  exact ⟨fault, by simp only [hfault]; rfl⟩

/-- Of two results, neither hides that the other is an error. -/
theorem both {x : (j : Json) → Fields j → Except Fault α}
    {y : (j : Json) → Fields j → Except Fault β} (hx : Fails [m] x) (hy : Fails ms y) :
    Fails (m :: ms) fun j fs => fs.both (x j fs) (y j fs) := by
  rintro ms' ⟨n, hn, hempty⟩
  rcases List.mem_cons.mp hn with rfl | hn
  · obtain ⟨fault, hfault⟩ := hx ms' ⟨n, List.mem_singleton_self n, hempty⟩
    simp only [hfault]
    cases y (.object ms') (.named (namedParts ms')) <;> exact ⟨_, rfl⟩
  · obtain ⟨fault, hfault⟩ := hy ms' ⟨n, hn, hempty⟩
    simp only [hfault]
    cases x (.object ms') (.named (namedParts ms')) <;> exact ⟨_, rfl⟩

theorem field (h : Rejects read v) (hname : name ≠ "identifiers" := by decide) :
    Fails [(name, v)] fun _ fs => fs.field position name fun w _ => read w := by
  rintro ms' ⟨m, hm, hempty⟩
  obtain rfl := List.mem_singleton.mp hm
  rw [Empties, if_neg hname] at hempty
  obtain ⟨v', hv, hms⟩ := hempty
  obtain ⟨part, hpart, rfl⟩ := value?_of_membersOf hms position
  obtain ⟨e, he⟩ := h part.1 hv
  exact ⟨.wrong name e, by simp only [Fields.field, hpart, he]; rfl⟩

/-- What has an empty list of names in it is not null. -/
theorem field? (h : Rejects read v) (hname : name ≠ "identifiers" := by decide) :
    Fails [(name, v)] fun _ fs => fs.field? position name fun w _ => read w := by
  rintro ms' ⟨m, hm, hempty⟩
  obtain rfl := List.mem_singleton.mp hm
  rw [Empties, if_neg hname] at hempty
  obtain ⟨v', hv, hms⟩ := hempty
  obtain ⟨⟨w, hw⟩, hpart, rfl⟩ := value?_of_membersOf hms position
  obtain ⟨e, he⟩ := h w hv
  refine ⟨.wrong name e, ?_⟩
  simp only [Fields.field?, hpart]
  cases hv <;> simp only [he] <;> rfl

theorem idents {v : Json} :
    Fails [("identifiers", v)] fun _ fs =>
      fs.field position "identifiers" fun w _ => decodeIdents w := by
  rintro ms' ⟨m, hm, hempty⟩
  obtain rfl := List.mem_singleton.mp hm
  rw [Empties, if_pos rfl] at hempty
  obtain ⟨part, hpart, hv⟩ := value?_of_membersOf hempty position
  have hnone : decodeIdents part.1 = .error .noNames := by
    rw [hv]
    rfl
  exact ⟨.wrong "identifiers" .noNames, by simp only [Fields.field, hpart, hnone]; rfl⟩

end Fails

namespace Rejects

variable {read : Json → Decode α} {doc : Json}

theorem of_nameLists (h : doc.nameLists = []) : Rejects read doc :=
  fun _ hj => absurd h hj.nameLists_ne_nil

theorem map (h : Rejects read doc) (f : α → β) : Rejects (fun j => do return f (← read j)) doc := by
  intro j hj
  obtain ⟨e, he⟩ := h j hj
  exact ⟨e, by simp only [he]; rfl⟩

theorem record {ms : List (String × Json)} {name : String} {fields : Nat}
    {read : (j : Json) → Fields j → Except Fault α} (h : Fails ms read) :
    Rejects (fun j => j.record name fields (read j)) (.object ms) := by
  intro j hj
  have hms : ∃ ms', j = .object ms' ∧ ∃ m ∈ ms, Empties ms' m := by
    cases hj with
    | list hm hms' => exact ⟨_, rfl, _, hm, hms'⟩
    | member hm hname hv hms' =>
        refine ⟨_, rfl, _, hm, ?_⟩
        rw [Empties, if_neg hname]
        exact ⟨_, hv, hms'⟩
  obtain ⟨ms', rfl, hms⟩ := hms
  obtain ⟨fault, hfault⟩ := h ms' hms
  cases fault with
  | wrong field e => exact ⟨e, by simp only [Json.record, hfault]⟩
  | missing field => exact ⟨.missingField field, by simp only [Json.record, hfault]⟩

theorem list {as : List α} {encode : α → Json} (h : ∀ a ∈ as, Rejects read (encode a)) :
    Rejects (fun j => j.list fun v _ => read v) (.array (as.map encode)) := by
  intro j hj
  cases hj with
  | @item _ items' v v' hv hempty hv' =>
      obtain ⟨a, ha, rfl⟩ := List.mem_map.mp hv
      obtain ⟨e, he⟩ := h a ha v' hempty
      have hitems : ∃ e, items'.mapM read = .error e := by
        clear hempty
        induction items' with
        | nil => cases hv'
        | cons w ws ih =>
            rw [List.mapM_cons]
            rcases List.mem_cons.mp hv' with rfl | hv'
            · exact ⟨e, by rw [he]; rfl⟩
            · obtain ⟨e', he'⟩ := ih hv'
              cases hw : read w with
              | error e'' => exact ⟨e'', rfl⟩
              | ok b => exact ⟨e', by rw [he']; rfl⟩
      obtain ⟨e', he'⟩ := hitems
      refine ⟨e', ?_⟩
      show (parts items').mapM (read ∘ Subtype.val) = .error e'
      rw [← List.mapM_map, map_parts, he']

theorem located (h : Rejects read doc) (span : Span) :
    Rejects (fun j => j.readLocated fun v _ => read v) (located doc span) :=
  .record (.map (.both (.field h) (.field (.of_nameLists (span_lists span).2))) _)

/-- An object with more than one member is no construct. -/
theorem construct {name : String} (hname : name ≠ "identifiers") {v : Json}
    (hvariant : ∀ ms e, (Json.object ms).variant = .error e → read (.object ms) = .error e)
    (h : ∀ w, Emptied v w → ∃ e, read (tagged name w) = .error e) :
    Rejects read (tagged name v) := by
  intro j hj
  have hms : ∃ ms v', j = .object ms ∧ Emptied v v' ∧ membersOf name ms = [(name, v')] := by
    cases hj with
    | list hm _ => cases List.mem_singleton.mp hm; exact absurd rfl hname
    | member hm _ hv hms =>
        cases List.mem_singleton.mp hm
        exact ⟨_, _, rfl, hv, hms⟩
  obtain ⟨ms, v', rfl, hv, hms⟩ := hms
  match ms, hms with
  | [(other, w)], hms =>
      have hone : (other, w) = (name, v') := by
        have hmem : (name, v') ∈ membersOf name [(other, w)] := hms ▸ List.mem_singleton_self _
        exact (List.mem_singleton.mp (List.mem_of_mem_filter hmem)).symm
      rw [hone]
      exact h v' hv
  | _ :: _ :: _, _ => exact ⟨.notOneMember, hvariant _ _ rfl⟩

end Rejects

end Json

open Json

/-! ## Syntax -/

theorem encodeIdent_rejects {α : Type} {read : Json → Decode α} (i : Ident) :
    Rejects read (encodeIdent i) :=
  .of_nameLists (encodeIdent_lists i).2

theorem encodeTy_rejects {α : Type} {read : Json → Decode α} (t : Located Ty) :
    Rejects read (encodeTy t) :=
  .of_nameLists (encodeTy_lists t).2

theorem encodeExpr_rejects {α : Type} {read : Json → Decode α} (e : Located Expr) :
    Rejects read (encodeExpr e) :=
  .of_nameLists (encodeExpr_lists e).2

theorem VarDecl.encode_rejects (d : VarDecl) : Rejects decode d.encode :=
  .record (.map (.both (.field (encodeTy_rejects d.ty)) .idents) _)

theorem encodeVarDecl_rejects (d : Located VarDecl) : Rejects decodeVarDecl (encodeVarDecl d) :=
  .located d.node.encode_rejects d.span

namespace Stmt

/-- A statement is read from nothing that is no construct. -/
theorem decode_variant (ms : List (String × Json)) (e : DecodeError)
    (h : (Json.object ms).variant = .error e) : decode (.object ms) = .error e := by
  rw [decode, h]
  rfl

mutual

theorem encode_rejects : (s : Stmt) → Rejects decode s.encode
  | .block body => by
      refine .construct (by decide) decode_variant fun w hw => ?_
      rw [encodeList_eq_map] at hw
      rw [decode]
      -- the name of the construct decides which record is read
      show ∃ e, w.record _ _ _ = _
      exact Rejects.record (.map (.field (.list (encodeList_rejects body))) _) w hw
  | .ifThen c ⟨t, s⟩ => by
      refine .construct (by decide) decode_variant fun w hw => ?_
      rw [decode]
      show ∃ e, w.record _ _ _ = _
      exact Rejects.record (.map (.both (.field (encodeExpr_rejects c))
        (.both (.field (.located (encode_rejects t) s)) (.field? (.of_nameLists rfl)))) _) w hw
  | .ifElse c ⟨t, s⟩ ⟨e, s'⟩ => by
      refine .construct (by decide) decode_variant fun w hw => ?_
      rw [decode]
      show ∃ e, w.record _ _ _ = _
      exact Rejects.record (.map (.both (.field (encodeExpr_rejects c))
        (.both (.field (.located (encode_rejects t) s))
          (.field? (.located (encode_rejects e) s')))) _) w hw
  | .loop c ⟨body, s⟩ => by
      refine .construct (by decide) decode_variant fun w hw => ?_
      rw [decode]
      show ∃ e, w.record _ _ _ = _
      exact Rejects.record (.map (.both (.field (encodeExpr_rejects c))
        (.field (.located (encode_rejects body) s))) _) w hw
  | .print value => by
      refine .construct (by decide) decode_variant fun w hw => ?_
      rw [decode]
      show ∃ e, w.record _ _ _ = _
      exact Rejects.record (.map (.field (encodeExpr_rejects value)) _) w hw
  | .assign target value => by
      refine .construct (by decide) decode_variant fun w hw => ?_
      rw [decode]
      show ∃ e, w.record _ _ _ = _
      exact Rejects.record (.map (.both (.field (encodeIdent_rejects target))
        (.field (encodeExpr_rejects value))) _) w hw
  | .arrayAssign target index value => by
      refine .construct (by decide) decode_variant fun w hw => ?_
      rw [decode]
      show ∃ e, w.record _ _ _ = _
      exact Rejects.record (.map (.both (.field (encodeIdent_rejects target))
        (.both (.field (encodeExpr_rejects index)) (.field (encodeExpr_rejects value)))) _) w hw
  | .varDecl decl => by
      refine .construct (by decide) decode_variant fun w hw => ?_
      rw [decode]
      show ∃ e, VarDecl.decode w >>= _ = _
      obtain ⟨e, he⟩ := decl.encode_rejects w hw
      exact ⟨e, by rw [he]; rfl⟩

theorem encodeList_rejects :
    (ss : List (Located Stmt)) → ∀ s ∈ ss, Rejects decodeStmt (encodeStmt s)
  | [], _, h => nomatch h
  | ⟨s, span⟩ :: ss, s', h => by
      rcases List.mem_cons.mp h with rfl | h
      · exact .located (encode_rejects s) span
      · exact encodeList_rejects ss s' h

end

end Stmt

theorem encodeStmt_rejects (s : Located Stmt) : Rejects decodeStmt (encodeStmt s) :=
  .located s.node.encode_rejects s.span

theorem encodeFormal_rejects {α : Type} {read : Json → Decode α} (f : Located Formal) :
    Rejects read (encodeFormal f) :=
  .of_nameLists (encodeFormal_lists f).2

theorem MethodDecl.encode_rejects (m : MethodDecl) : Rejects decode m.encode :=
  .record (.map (.both (.field (encodeTy_rejects m.returnType))
    (.both (.field (encodeIdent_rejects m.name))
      (.both (.field (.list fun f _ => encodeFormal_rejects f))
        (.both (.field (.list fun s _ => encodeStmt_rejects s))
          (.field (encodeExpr_rejects m.returnExpr)))))) _)

theorem encodeMethod_rejects (m : Located MethodDecl) : Rejects decodeMethod (encodeMethod m) :=
  .located m.node.encode_rejects m.span

namespace ClassDecl

theorem decode_variant (ms : List (String × Json)) (e : DecodeError)
    (h : (Json.object ms).variant = .error e) : decode (.object ms) = .error e := by
  rw [decode, h]
  rfl

theorem encode_rejects (c : ClassDecl) : Rejects decode c.encode := by
  obtain ⟨name, _ | parent, fields, methods⟩ := c
  · refine .construct (by decide) decode_variant fun w hw => ?_
    rw [decode]
    show ∃ e, w.record _ _ _ = _
    exact Rejects.record (.map (.both (.field (encodeIdent_rejects name))
      (.both (.field (.list fun d _ => encodeVarDecl_rejects d))
        (.field (.list fun m _ => encodeMethod_rejects m)))) _) w hw
  · refine .construct (by decide) decode_variant fun w hw => ?_
    rw [decode]
    show ∃ e, w.record _ _ _ = _
    exact Rejects.record (.map (.both (.field (encodeIdent_rejects name))
      (.both (.field (encodeIdent_rejects parent))
        (.both (.field (.list fun d _ => encodeVarDecl_rejects d))
          (.field (.list fun m _ => encodeMethod_rejects m))))) _) w hw

end ClassDecl

theorem encodeClass_rejects (c : Located ClassDecl) : Rejects decodeClass (encodeClass c) :=
  .located c.node.encode_rejects c.span

theorem encodeMainClass_rejects (c : Located MainClass) :
    Rejects decodeMainClass (encodeMainClass c) :=
  .located (.record (.map (.both (.field (encodeIdent_rejects c.node.name))
    (.both (.field (encodeIdent_rejects c.node.args))
      (.field (encodeStmt_rejects c.node.body)))) _)) c.span

theorem encodeProgram_rejects (p : Located Program) : Rejects decodeProgram (encodeProgram p) :=
  .located (.record (.map (.both (.field (encodeMainClass_rejects p.node.mainClass))
    (.field (.list fun c _ => encodeClass_rejects c))) _)) p.span

theorem Node.encode_rejects : (n : Node) → Rejects (decode n.kind) n.encode
  | .program p => (encodeProgram_rejects p).map Node.program
  | .mainClass c => (encodeMainClass_rejects c).map Node.mainClass
  | .classDecl c => (encodeClass_rejects c).map Node.classDecl
  | .varDecl d => (encodeVarDecl_rejects d).map Node.varDecl
  | .methodDecl m => (encodeMethod_rejects m).map Node.methodDecl
  | .formal f => encodeFormal_rejects f
  | .ty t => encodeTy_rejects t
  | .stmt s => (encodeStmt_rejects s).map Node.stmt
  | .expr e => encodeExpr_rejects e
  | .ident i => encodeIdent_rejects i

/-- Declarations without names are read nowhere. The lists of names in the document of a node are
those of its declarations, in source order; in the place of each there can be an empty list, with
the rest of the document as it is; and such a document is not read, nor is any other that has this
empty list in it, whatever else it has. -/
theorem empty_names_not_read (n : Node) :
    n.encode.nameLists = n.varDecls.map (fun d => .array (d.idents.map encodeIdent)) ∧
    n.encode.emptied.length = n.varDecls.length ∧
    (∀ (i : Nat) (j : Json), n.encode.emptied[i]? = some j →
      j.nameLists = n.encode.nameLists.set i (.array []) ∧
        ∃ e, Node.decode n.kind j = .error e) ∧
    ∀ j, Emptied n.encode j → ∃ e, Node.decode n.kind j = .error e := by
  obtain ⟨hdistinct, hlists⟩ := n.encode_lists
  have hlength : n.encode.emptied.length = n.encode.nameLists.length := by
    rw [← length_blanks n.encode.nameLists, ← emptied_nameLists, List.length_map]
  refine ⟨hlists, ?_, ?_, n.encode_rejects⟩
  · rw [hlength, hlists, List.length_map]
  · intro i j hj
    constructor
    · refine getElem?_blanks ?_
      rw [← emptied_nameLists, List.getElem?_map, hj]
      rfl
    · exact n.encode_rejects j (emptied_of_mem n.encode hdistinct (List.mem_of_getElem? hj))

/-- Of two declarations, the second is the `else` of an `if` in a loop. With an empty list for its
names the document is not read, nor is it with text in the place of the other declaration too. -/
theorem empty_names_not_read_else :
    let span : Span := ⟨⟨none, 1, 1⟩, ⟨none, 1, 9⟩⟩
    let ty : Located Ty := ⟨.integer, span⟩
    let this : Located Expr := ⟨.this, span⟩
    let decl (name : String) : Located Stmt := ⟨.varDecl ⟨ty, ⟨name, span⟩, []⟩, span⟩
    let n : Node := .stmt ⟨.loop this ⟨.ifElse this (decl "a") (decl "b"), span⟩, span⟩
    let noNames : Json := .object [("ty", encodeTy ty), ("identifiers", .array [])]
    let doc (thenBranch : Json) : Json :=
      located (tagged "While" (.object [("condition", encodeExpr this),
        ("body", located (Stmt.encodeIf (encodeExpr this) thenBranch
          (located (tagged "VarDecl" noNames) span)) span)])) span
    n.encode.emptied[1]? = some (doc (encodeStmt (decl "a"))) ∧
    (∃ e, Node.decode n.kind (doc (encodeStmt (decl "a"))) = .error e) ∧
    Emptied n.encode (doc (.string "text")) ∧
    ∃ e, Node.decode n.kind (doc (.string "text")) = .error e := by
  intro span ty this decl n noNames doc
  have hexact : n.encode.emptied[1]? = some (doc (encodeStmt (decl "a"))) := by
    simp [n, doc, noNames, decl, this, ty, span, Node.encode, encodeStmt, Stmt.encode,
      Stmt.encodeIf, VarDecl.encode, encodeTy, Ty.encode, encodeExpr, Expr.encode, Span.encode,
      Location.encode, ofString?, located, tagged, emptied, emptiedOf]
  have hdecl : Emptied (decl "b").node.encode (tagged "VarDecl" noNames) :=
    .tagged (.list (List.mem_cons_of_mem _ (List.mem_singleton_self _)) rfl)
  have hif : Emptied (Stmt.encode (.ifElse this (decl "a") (decl "b")))
      (Stmt.encodeIf (encodeExpr this) (.string "text")
        (located (tagged "VarDecl" noNames) span)) :=
    .tagged (.member (List.mem_cons_of_mem _ (List.mem_cons_of_mem _ (List.mem_singleton_self _)))
      (by decide) (hdecl.located span span) rfl)
  have hempty : Emptied n.encode (doc (.string "text")) :=
    .located (.tagged (.member (List.mem_cons_of_mem _ (List.mem_singleton_self _)) (by decide)
      (hif.located span span) rfl)) span span
  exact ⟨hexact, ((empty_names_not_read n).2.2.1 1 _ hexact).2, hempty,
    (empty_names_not_read n).2.2.2 _ hempty⟩

end MiniJava
