import MiniJava.Proofs.Json.Reading

/-!
Reading syntax undoes writing it, for every sort of syntax and for every change of the document that
carries no meaning.
-/
namespace MiniJava

open Json (Perturbed ReadsBack record_ok tagged)
open Json.Fields (both_ok map_ok)

/-! ## Positions, names and types -/

theorem Location.encode_readsBack (l : Location) : ReadsBack decode l.encode l := by
  intro j hj
  obtain ⟨ms, rfl, hfile, hline, hcolumn⟩ := hj.record_cases ["file", "line", "column"] rfl (by decide)
  have hpos : ∀ n : UInt64, ReadsBack Json.readPosition (.int n.toNat) n := fun n =>
    .int (by rw [Json.readPosition, Word.unsigned?_toNat])
  exact record_ok (map_ok (both_ok hfile.string? (both_ok (hline.field (hpos l.line))
    (hcolumn.field (hpos l.column)))) rfl)

theorem Span.encode_readsBack (s : Span) : ReadsBack decode s.encode s := by
  intro j hj
  obtain ⟨ms, rfl, hstart, hend⟩ := hj.record_cases ["start", "end"] rfl (by decide)
  exact record_ok (map_ok
    (both_ok (hstart.field s.start.encode_readsBack) (hend.field s.stop.encode_readsBack)) rfl)

theorem encodeIdent_readsBack (i : Ident) : ReadsBack decodeIdent (encodeIdent i) i := by
  refine .located ?_ i.span.encode_readsBack
  intro j hj
  obtain ⟨ms, rfl, hname⟩ := hj.record_cases ["name"] rfl (by decide)
  exact record_ok (hname.field (.string rfl))

theorem encodeIdents_readBack (first : Ident) (rest : List Ident) :
    ReadsBack decodeIdents (.array ((first :: rest).map encodeIdent)) (first, rest) := by
  intro j hj
  have hlist : (j.list fun v _ => decodeIdent v) = .ok (first :: rest) :=
    ReadsBack.list (fun i _ => encodeIdent_readsBack i) j hj
  rw [decodeIdents, hlist]
  rfl

theorem Ty.encode_readsBack (t : Ty) : ReadsBack decode t.encode t := by
  cases t with
  | intArray => exact .string rfl
  | boolean => exact .string rfl
  | integer => exact .string rfl
  | named name =>
      refine .construct (by decide) fun v hv => ?_
      rw [hv.string_eq]
      rfl

theorem encodeTy_readsBack (t : Located Ty) : ReadsBack decodeTy (encodeTy t) t :=
  .located t.node.encode_readsBack t.span.encode_readsBack

/-! ## Expressions -/

namespace Expr

theorem encodeList_eq_map (es : List (Located Expr)) : encodeList es = es.map encodeExpr := by
  induction es with
  | nil => rfl
  | cons e es ih => rw [encodeList, ih]; rfl

/-- What stands under the name of an operator is read in the same way for all of them. -/
theorem decode_binary (op : BinaryOp) (v : Json) :
    decode (tagged op.name v) = v.record "BinaryExpr" 2 fun f =>
      (f.both (f.field 0 "left" fun w _ => decodeExpr w)
        (f.field 1 "right" fun w _ => decodeExpr w)).map fun (l, r) => .binary op l r := by
  rw [decode]
  cases op <;> rfl

mutual

/-- A changed expression is still the construct it was, and each operand is under its name. -/
theorem encode_readsBack : ∀ e : Expr, ReadsBack decode e.encode e
  | .binary op ⟨l, s⟩ ⟨r, t⟩ => by
      refine .construct (by cases op <;> decide) fun v hv => ?_
      rw [decode_binary]
      obtain ⟨ms, rfl, hl, hr⟩ := hv.record_cases ["left", "right"] rfl (by decide)
      exact record_ok (map_ok (both_ok (hl.field (.located (encode_readsBack l) s.encode_readsBack))
        (hr.field (.located (encode_readsBack r) t.encode_readsBack))) rfl)
  | .lookup ⟨a, s⟩ ⟨i, t⟩ => by
      refine .construct (by decide) fun v hv => ?_
      rw [decode]
      -- the name of the construct decides which record is read
      show v.record _ _ _ = _
      obtain ⟨ms, rfl, ha, hi⟩ := hv.record_cases ["array", "index"] rfl (by decide)
      exact record_ok (map_ok (both_ok (ha.field (.located (encode_readsBack a) s.encode_readsBack))
        (hi.field (.located (encode_readsBack i) t.encode_readsBack))) rfl)
  | .length ⟨a, s⟩ => by
      refine .construct (by decide) fun v hv => ?_
      rw [decode]
      show v.record _ _ _ = _
      obtain ⟨ms, rfl, ha⟩ := hv.record_cases ["array"] rfl (by decide)
      exact record_ok (map_ok (ha.field (.located (encode_readsBack a) s.encode_readsBack)) rfl)
  | .call ⟨r, s⟩ method args => by
      refine .construct (by decide) fun v hv => ?_
      rw [decode]
      show v.record _ _ _ = _
      obtain ⟨ms, rfl, hr, hm, ha⟩ := hv.record_cases ["receiver", "method", "args"] rfl (by decide)
      rw [encodeList_eq_map] at ha
      exact record_ok (map_ok (both_ok (hr.field (.located (encode_readsBack r) s.encode_readsBack))
        (both_ok (hm.field (encodeIdent_readsBack method))
          (ha.field (.list (encodeList_readsBack args))))) rfl)
  | .int value => by
      refine .construct (by decide) fun v hv => ?_
      rw [hv.int_eq, decode]
      show Json.readLiteral _ >>= _ = _
      rw [Json.readLiteral, Word.signed?_toInt]
      rfl
  | .bool true => .string (by rw [decode]; rfl)
  | .bool false => .string (by rw [decode]; rfl)
  | .var name => by
      refine .construct (by decide) fun v hv => ?_
      rw [hv.string_eq, decode]
      rfl
  | .this => .string (by rw [decode]; rfl)
  | .newArray ⟨n, s⟩ => by
      refine .construct (by decide) fun v hv => ?_
      rw [decode]
      show v.record _ _ _ = _
      obtain ⟨ms, rfl, hn⟩ := hv.record_cases ["size"] rfl (by decide)
      exact record_ok (map_ok (hn.field (.located (encode_readsBack n) s.encode_readsBack)) rfl)
  | .newObject className => by
      refine .construct (by decide) fun v hv => ?_
      rw [decode]
      show v.record _ _ _ = _
      obtain ⟨ms, rfl, hc⟩ := hv.record_cases ["class_name"] rfl (by decide)
      exact record_ok (map_ok (hc.field (encodeIdent_readsBack className)) rfl)
  | .not ⟨e, s⟩ => by
      refine .construct (by decide) fun v hv => ?_
      rw [decode]
      show v.record _ _ _ = _
      obtain ⟨ms, rfl, he⟩ := hv.record_cases ["operand"] rfl (by decide)
      exact record_ok (map_ok (he.field (.located (encode_readsBack e) s.encode_readsBack)) rfl)

theorem encodeList_readsBack :
    ∀ (es : List (Located Expr)), ∀ e ∈ es, ReadsBack decodeExpr (encodeExpr e) e
  | [], _, h => nomatch h
  | ⟨e, s⟩ :: es, e', h => by
      rcases List.mem_cons.mp h with rfl | h
      · exact .located (encode_readsBack e) s.encode_readsBack
      · exact encodeList_readsBack es e' h

end

end Expr

theorem encodeExpr_readsBack (e : Located Expr) : ReadsBack decodeExpr (encodeExpr e) e :=
  .located e.node.encode_readsBack e.span.encode_readsBack

/-! ## Declarations of variables and statements -/

theorem VarDecl.encode_readsBack (d : VarDecl) : ReadsBack decode d.encode d := by
  intro j hj
  obtain ⟨ms, rfl, hty, hids⟩ := hj.record_cases ["ty", "identifiers"] rfl (by decide)
  exact record_ok (map_ok (both_ok (hty.field (encodeTy_readsBack d.ty))
    (hids.field (encodeIdents_readBack d.first d.rest))) rfl)

theorem encodeVarDecl_readsBack (d : Located VarDecl) :
    ReadsBack decodeVarDecl (encodeVarDecl d) d :=
  .located d.node.encode_readsBack d.span.encode_readsBack

namespace Stmt

theorem encodeList_eq_map (ss : List (Located Stmt)) : encodeList ss = ss.map encodeStmt := by
  induction ss with
  | nil => rfl
  | cons s ss ih => rw [encodeList, ih]; rfl

mutual

/-- Where an `else` is null, it may be left out; where there is one, it is still there. -/
theorem encode_readsBack : ∀ s : Stmt, ReadsBack decode s.encode s
  | .block body => by
      refine .construct (by decide) fun v hv => ?_
      rw [decode]
      show v.record _ _ _ = _
      obtain ⟨ms, rfl, hbody⟩ := hv.record_cases ["statements"] rfl (by decide)
      rw [encodeList_eq_map] at hbody
      exact record_ok (map_ok (hbody.field (.list (encodeList_readsBack body))) rfl)
  | .ifThen c ⟨t, s⟩ => by
      refine .construct (by decide) fun v hv => ?_
      rw [decode]
      show v.record _ _ _ = _
      obtain ⟨ms, rfl, hc, ht, he⟩ :=
        hv.record_cases ["condition", "then_branch", "else_branch"] rfl (by decide)
      exact record_ok (map_ok (both_ok (hc.field (encodeExpr_readsBack c))
        (both_ok (ht.field (.located (encode_readsBack t) s.encode_readsBack)) he.field?_none)) rfl)
  | .ifElse c ⟨t, s⟩ ⟨e, s'⟩ => by
      refine .construct (by decide) fun v hv => ?_
      rw [decode]
      show v.record _ _ _ = _
      obtain ⟨ms, rfl, hc, ht, he⟩ :=
        hv.record_cases ["condition", "then_branch", "else_branch"] rfl (by decide)
      exact record_ok (map_ok (both_ok (hc.field (encodeExpr_readsBack c))
        (both_ok (ht.field (.located (encode_readsBack t) s.encode_readsBack))
          (he.field?_some (.located (encode_readsBack e) s'.encode_readsBack) nofun))) rfl)
  | .loop c ⟨body, s⟩ => by
      refine .construct (by decide) fun v hv => ?_
      rw [decode]
      show v.record _ _ _ = _
      obtain ⟨ms, rfl, hc, hbody⟩ := hv.record_cases ["condition", "body"] rfl (by decide)
      exact record_ok (map_ok (both_ok (hc.field (encodeExpr_readsBack c))
        (hbody.field (.located (encode_readsBack body) s.encode_readsBack))) rfl)
  | .print value => by
      refine .construct (by decide) fun v hv => ?_
      rw [decode]
      show v.record _ _ _ = _
      obtain ⟨ms, rfl, hvalue⟩ := hv.record_cases ["value"] rfl (by decide)
      exact record_ok (map_ok (hvalue.field (encodeExpr_readsBack value)) rfl)
  | .assign target value => by
      refine .construct (by decide) fun v hv => ?_
      rw [decode]
      show v.record _ _ _ = _
      obtain ⟨ms, rfl, htarget, hvalue⟩ := hv.record_cases ["target", "value"] rfl (by decide)
      exact record_ok (map_ok (both_ok (htarget.field (encodeIdent_readsBack target))
        (hvalue.field (encodeExpr_readsBack value))) rfl)
  | .arrayAssign target index value => by
      refine .construct (by decide) fun v hv => ?_
      rw [decode]
      show v.record _ _ _ = _
      obtain ⟨ms, rfl, htarget, hindex, hvalue⟩ :=
        hv.record_cases ["target", "index", "value"] rfl (by decide)
      exact record_ok (map_ok (both_ok (htarget.field (encodeIdent_readsBack target))
        (both_ok (hindex.field (encodeExpr_readsBack index))
          (hvalue.field (encodeExpr_readsBack value)))) rfl)
  | .varDecl decl => by
      refine .construct (by decide) fun v hv => ?_
      rw [decode]
      show VarDecl.decode v >>= _ = _
      rw [decl.encode_readsBack v hv]
      rfl

theorem encodeList_readsBack :
    ∀ (ss : List (Located Stmt)), ∀ s ∈ ss, ReadsBack decodeStmt (encodeStmt s) s
  | [], _, h => nomatch h
  | ⟨s, span⟩ :: ss, s', h => by
      rcases List.mem_cons.mp h with rfl | h
      · exact .located (encode_readsBack s) span.encode_readsBack
      · exact encodeList_readsBack ss s' h

end

end Stmt

theorem encodeStmt_readsBack (s : Located Stmt) : ReadsBack decodeStmt (encodeStmt s) s :=
  .located s.node.encode_readsBack s.span.encode_readsBack

/-! ## Methods, classes and programs -/

theorem encodeFormal_readsBack (f : Located Formal) : ReadsBack decodeFormal (encodeFormal f) f := by
  refine .located ?_ f.span.encode_readsBack
  intro j hj
  obtain ⟨ms, rfl, hty, hname⟩ := hj.record_cases ["ty", "name"] rfl (by decide)
  exact record_ok (map_ok (both_ok (hty.field (encodeTy_readsBack f.node.ty))
    (hname.field (encodeIdent_readsBack f.node.name))) rfl)

theorem MethodDecl.encode_readsBack (m : MethodDecl) : ReadsBack decode m.encode m := by
  intro j hj
  obtain ⟨ms, rfl, hty, hname, hformals, hbody, hreturn⟩ :=
    hj.record_cases ["return_type", "name", "formals", "body", "return_expr"] rfl (by decide)
  exact record_ok (map_ok (both_ok (hty.field (encodeTy_readsBack m.returnType))
    (both_ok (hname.field (encodeIdent_readsBack m.name))
      (both_ok (hformals.field (.list fun f _ => encodeFormal_readsBack f))
        (both_ok (hbody.field (.list fun s _ => encodeStmt_readsBack s))
          (hreturn.field (encodeExpr_readsBack m.returnExpr)))))) rfl)

theorem encodeMethod_readsBack (m : Located MethodDecl) : ReadsBack decodeMethod (encodeMethod m) m :=
  .located m.node.encode_readsBack m.span.encode_readsBack

theorem ClassDecl.encode_readsBack (c : ClassDecl) : ReadsBack decode c.encode c := by
  obtain ⟨name, _ | parent, fields, methods⟩ := c
  · refine .construct (by decide) fun v hv => ?_
    rw [decode]
    show v.record _ _ _ = _
    obtain ⟨ms, rfl, hname, hfields, hmethods⟩ :=
      hv.record_cases ["name", "fields", "methods"] rfl (by decide)
    exact record_ok (map_ok (both_ok (hname.field (encodeIdent_readsBack name))
      (both_ok (hfields.field (.list fun d _ => encodeVarDecl_readsBack d))
        (hmethods.field (.list fun m _ => encodeMethod_readsBack m)))) rfl)
  · refine .construct (by decide) fun v hv => ?_
    rw [decode]
    show v.record _ _ _ = _
    obtain ⟨ms, rfl, hname, hparent, hfields, hmethods⟩ :=
      hv.record_cases ["name", "parent", "fields", "methods"] rfl (by decide)
    exact record_ok (map_ok (both_ok (hname.field (encodeIdent_readsBack name))
      (both_ok (hparent.field (encodeIdent_readsBack parent))
        (both_ok (hfields.field (.list fun d _ => encodeVarDecl_readsBack d))
          (hmethods.field (.list fun m _ => encodeMethod_readsBack m))))) rfl)

theorem encodeClass_readsBack (c : Located ClassDecl) : ReadsBack decodeClass (encodeClass c) c :=
  .located c.node.encode_readsBack c.span.encode_readsBack

theorem encodeMainClass_readsBack (c : Located MainClass) :
    ReadsBack decodeMainClass (encodeMainClass c) c := by
  refine .located ?_ c.span.encode_readsBack
  intro j hj
  obtain ⟨ms, rfl, hname, hargs, hbody⟩ := hj.record_cases ["name", "args", "body"] rfl (by decide)
  exact record_ok (map_ok (both_ok (hname.field (encodeIdent_readsBack c.node.name))
    (both_ok (hargs.field (encodeIdent_readsBack c.node.args))
      (hbody.field (encodeStmt_readsBack c.node.body)))) rfl)

theorem encodeProgram_readsBack (p : Located Program) :
    ReadsBack decodeProgram (encodeProgram p) p := by
  refine .located ?_ p.span.encode_readsBack
  intro j hj
  obtain ⟨ms, rfl, hmain, hclasses⟩ := hj.record_cases ["main_class", "classes"] rfl (by decide)
  exact record_ok (map_ok (both_ok (hmain.field (encodeMainClass_readsBack p.node.mainClass))
    (hclasses.field (.list fun c _ => encodeClass_readsBack c))) rfl)

/-! ## Any syntax -/

namespace Node

theorem encode_readsBack (n : Node) : ReadsBack (decode n.kind) n.encode n := by
  intro j hj
  cases n with
  | program p => rw [kind, decode, encodeProgram_readsBack p j hj]; rfl
  | mainClass c => rw [kind, decode, encodeMainClass_readsBack c j hj]; rfl
  | classDecl c => rw [kind, decode, encodeClass_readsBack c j hj]; rfl
  | varDecl d => rw [kind, decode, encodeVarDecl_readsBack d j hj]; rfl
  | methodDecl m => rw [kind, decode, encodeMethod_readsBack m j hj]; rfl
  | formal f => rw [kind, decode, encodeFormal_readsBack f j hj]; rfl
  | ty t => rw [kind, decode, encodeTy_readsBack t j hj]; rfl
  | stmt s => rw [kind, decode, encodeStmt_readsBack s j hj]; rfl
  | expr e => rw [kind, decode, encodeExpr_readsBack e j hj]; rfl
  | ident i => rw [kind, decode, encodeIdent_readsBack i j hj]; rfl

end Node

/-- Reading undoes writing: syntax of any kind, spans and locations are read from the documents that
are written for them, and from all changes of these that carry no meaning. -/
theorem reading_undoes_writing :
    (∀ n : Node, Node.decode n.kind n.encode = .ok n ∧
      ∀ j, Perturbed n.encode j → Node.decode n.kind j = .ok n) ∧
    (∀ s : Span, Span.decode s.encode = .ok s ∧
      ∀ j, Perturbed s.encode j → Span.decode j = .ok s) ∧
    ∀ l : Location, Location.decode l.encode = .ok l ∧
      ∀ j, Perturbed l.encode j → Location.decode j = .ok l := by
  refine ⟨fun n => ⟨?_, n.encode_readsBack⟩, fun s => ⟨?_, s.encode_readsBack⟩,
    fun l => ⟨?_, l.encode_readsBack⟩⟩
  · exact n.encode_readsBack _ (.refl _)
  · exact s.encode_readsBack _ (.refl _)
  · exact l.encode_readsBack _ (.refl _)

/-- An `if` is read from a document without its `else`, with a member of another name, and with a
start that is without a file and gives its column before its line. -/
theorem reading_undoes_writing_if :
    let span : Span := ⟨⟨none, 1, 1⟩, ⟨none, 1, 9⟩⟩
    let condition : Located Expr := ⟨.var "a", span⟩
    let branch : Located Stmt := ⟨.block [], span⟩
    let n : Node := .stmt ⟨.ifThen condition branch, span⟩
    let doc : Json := .object [
      ("node", tagged "If" (.object [("condition", encodeExpr condition),
        ("then_branch", encodeStmt branch), ("note", .string "no else")])),
      ("span", .object [("start", .object [("column", .int 1), ("line", .int 1)]),
        ("end", span.stop.encode)])]
    Perturbed n.encode doc ∧ Node.decode n.kind doc = .ok n := by
  intro span condition branch n doc
  have hif : Perturbed (Stmt.encode (.ifThen condition branch))
      (tagged "If" (.object [("condition", encodeExpr condition),
        ("then_branch", encodeStmt branch), ("note", .string "no else")])) :=
    .construct (by decide) <| .record (by decide)
      (.keep (.refl _) <| .keep (.refl _) <| .drop (by decide) .nil) (by decide) (.refl _)
  have hstart : Perturbed span.start.encode (.object [("column", .int 1), ("line", .int 1)]) :=
    .record (by decide) (.drop (by decide) <| .keep (.refl _) <| .keep (.refl _) .nil)
      (by simp) (.swap _ _ [])
  have hspan : Perturbed span.encode (.object [
      ("start", .object [("column", .int 1), ("line", .int 1)]), ("end", span.stop.encode)]) :=
    .record (by decide) (.keep hstart <| .keep (.refl _) .nil) (by simp) (.refl _)
  have hdoc : Perturbed n.encode doc :=
    .record (by decide) (.keep hif <| .keep hspan .nil) (by simp) (.refl _)
  exact ⟨hdoc, (reading_undoes_writing.1 n).2 doc hdoc⟩

end MiniJava
