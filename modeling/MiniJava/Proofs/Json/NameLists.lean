import MiniJava.Proofs.Json.RoundTrip
import MiniJava.Proofs.Tally.Declarations

/-!
The lists of names in a document. Under "identifiers" the document of a piece of syntax has the
names of its declarations, in source order, and nothing else; and none of its objects has two
members of one name.
-/
namespace MiniJava

namespace Json

mutual

/-- The values under "identifiers", at any depth, in the order of the document. -/
def nameLists : Json → List Json
  | .array items => nameListsIn items
  | .object ms => nameListsOf ms
  | .null | .bool _ | .int _ | .float _ | .string _ => []

def nameListsIn : List Json → List Json
  | [] => []
  | v :: vs => nameLists v ++ nameListsIn vs

def nameListsOf : List (String × Json) → List Json
  | [] => []
  | (name, v) :: ms =>
    (if name = "identifiers" then [v] else nameLists v) ++ nameListsOf ms

end

mutual

/-- The documents that have an empty array in the place of one of the lists, in the order of these,
and are otherwise the same. -/
def emptied : Json → List Json
  | .array items => (emptiedIn items).map .array
  | .object ms => (emptiedOf ms).map .object
  | .null | .bool _ | .int _ | .float _ | .string _ => []

def emptiedIn : List Json → List (List Json)
  | [] => []
  | v :: vs => (emptied v).map (· :: vs) ++ (emptiedIn vs).map (v :: ·)

def emptiedOf : List (String × Json) → List (List (String × Json))
  | [] => []
  | (name, v) :: ms =>
    (if name = "identifiers" then [.array []] else emptied v).map (fun v' => (name, v') :: ms) ++
      (emptiedOf ms).map ((name, v) :: ·)

end

/-- The lists with an empty array in the place of one of them, in order. -/
def blanks : List Json → List (List Json)
  | [] => []
  | v :: vs => (.array [] :: vs) :: (blanks vs).map (v :: ·)

theorem blanks_append (vs ws : List Json) :
    blanks (vs ++ ws) = (blanks vs).map (· ++ ws) ++ (blanks ws).map (vs ++ ·) := by
  induction vs with
  | nil => simp [blanks]
  | cons v vs ih => simp [blanks, ih, Function.comp_def]

theorem length_blanks (vs : List Json) : (blanks vs).length = vs.length := by
  induction vs with
  | nil => rfl
  | cons v vs ih => simp [blanks, ih]

theorem getElem?_blanks {vs ws : List Json} {i : Nat} (h : (blanks vs)[i]? = some ws) :
    ws = vs.set i (.array []) := by
  induction vs generalizing i ws with
  | nil => cases h
  | cons v vs ih =>
      cases i with
      | zero => exact (Option.some.inj h).symm
      | succ i =>
          rw [blanks, List.getElem?_cons_succ, List.getElem?_map, Option.map_eq_some_iff] at h
          obtain ⟨us, hus, rfl⟩ := h
          rw [ih hus, List.set_cons_succ]

mutual

theorem emptied_nameLists : (j : Json) → j.emptied.map nameLists = blanks j.nameLists
  | .array items => by
      rw [emptied, nameLists, ← emptiedIn_nameListsIn items, List.map_map]
      exact List.map_congr_left fun _ _ => by rw [Function.comp, nameLists]
  | .object ms => by
      rw [emptied, nameLists, ← emptiedOf_nameListsOf ms, List.map_map]
      exact List.map_congr_left fun _ _ => by rw [Function.comp, nameLists]
  | .null | .bool _ | .int _ | .float _ | .string _ => by simp [emptied, nameLists, blanks]

theorem emptiedIn_nameListsIn : (vs : List Json) →
    (emptiedIn vs).map nameListsIn = blanks (nameListsIn vs)
  | [] => by simp [emptiedIn, nameListsIn, blanks]
  | v :: vs => by
      simp [emptiedIn, nameListsIn, blanks_append, ← emptied_nameLists v,
        ← emptiedIn_nameListsIn vs, Function.comp_def]

theorem emptiedOf_nameListsOf : (ms : List (String × Json)) →
    (emptiedOf ms).map nameListsOf = blanks (nameListsOf ms)
  | [] => by simp [emptiedOf, nameListsOf, blanks]
  | (name, v) :: ms => by
      rw [emptiedOf, nameListsOf, blanks_append, ← emptiedOf_nameListsOf ms]
      by_cases hname : name = "identifiers"
      · simp [hname, nameListsOf, blanks, Function.comp_def]
      · simp [hname, nameListsOf, ← emptied_nameLists v, Function.comp_def]

end

mutual

/-- No object in the document has two members of one name. -/
def Distinct : Json → Prop
  | .array items => DistinctIn items
  | .object ms => (ms.map Prod.fst).Nodup ∧ DistinctOf ms
  | .null | .bool _ | .int _ | .float _ | .string _ => True

def DistinctIn : List Json → Prop
  | [] => True
  | v :: vs => Distinct v ∧ DistinctIn vs

def DistinctOf : List (String × Json) → Prop
  | [] => True
  | (_, v) :: ms => Distinct v ∧ DistinctOf ms

end

/-- The lists of names in an array are those of its items. -/
theorem lists_map {α : Type} {encode : α → Json} {lists : α → List Json}
    (h : ∀ a, (encode a).Distinct ∧ (encode a).nameLists = lists a) (as : List α) :
    DistinctIn (as.map encode) ∧ nameListsIn (as.map encode) = as.flatMap lists := by
  induction as with
  | nil => exact ⟨trivial, rfl⟩
  | cons a as ih =>
      rw [List.map_cons, DistinctIn, nameListsIn, List.flatMap_cons, (h a).2, ih.2]
      exact ⟨⟨(h a).1, ih.1⟩, rfl⟩

end Json

open Json

/-! ## The documents of syntax -/

section Documents

attribute [local simp] Distinct DistinctIn DistinctOf nameLists nameListsIn nameListsOf

namespace Json

theorem span_lists (s : Span) : s.encode.Distinct ∧ s.encode.nameLists = [] := by
  obtain ⟨⟨file, line, column⟩, ⟨file', line', column'⟩⟩ := s
  cases file <;> cases file' <;> simp [Span.encode, Location.encode, ofString?]

@[simp] theorem distinct_located (j : Json) (s : Span) : (located j s).Distinct ↔ j.Distinct := by
  simp [located, span_lists s]

@[simp] theorem nameLists_located (j : Json) (s : Span) :
    (located j s).nameLists = j.nameLists := by
  simp [located, span_lists s]

@[simp] theorem distinct_tagged (name : String) (j : Json) :
    (tagged name j).Distinct ↔ j.Distinct := by
  simp [tagged]

theorem nameLists_tagged {name : String} (j : Json) (hname : name ≠ "identifiers" := by decide) :
    (tagged name j).nameLists = j.nameLists := by
  simp [tagged, hname]

end Json

@[simp] theorem encodeIdent_lists (i : Ident) :
    (encodeIdent i).Distinct ∧ (encodeIdent i).nameLists = [] := by
  simp [encodeIdent]

@[simp] theorem Ty.encode_lists (t : Ty) : t.encode.Distinct ∧ t.encode.nameLists = [] := by
  cases t <;> simp [Ty.encode, nameLists_tagged]

@[simp] theorem encodeTy_lists (t : Located Ty) :
    (encodeTy t).Distinct ∧ (encodeTy t).nameLists = [] := by
  simp [encodeTy]

namespace Expr

mutual

theorem encode_lists : (e : Expr) → e.encode.Distinct ∧ e.encode.nameLists = []
  | .binary op ⟨l, _⟩ ⟨r, _⟩ => by
      have hop : op.name ≠ "identifiers" := by cases op <;> decide
      simp [encode, nameLists_tagged _ hop, encode_lists l, encode_lists r]
  | .lookup ⟨a, _⟩ ⟨i, _⟩ => by simp [encode, nameLists_tagged, encode_lists a, encode_lists i]
  | .length ⟨a, _⟩ => by simp [encode, nameLists_tagged, encode_lists a]
  | .call ⟨r, _⟩ method args => by
      simp [encode, nameLists_tagged, encode_lists r, encodeList_lists args]
  | .int value => by simp [encode, nameLists_tagged]
  | .bool true => by simp [encode]
  | .bool false => by simp [encode]
  | .var name => by simp [encode, nameLists_tagged]
  | .this => by simp [encode]
  | .newArray ⟨n, _⟩ => by simp [encode, nameLists_tagged, encode_lists n]
  | .newObject className => by simp [encode, nameLists_tagged]
  | .not ⟨e, _⟩ => by simp [encode, nameLists_tagged, encode_lists e]

theorem encodeList_lists : (es : List (Located Expr)) →
    DistinctIn (encodeList es) ∧ nameListsIn (encodeList es) = []
  | [] => by simp [encodeList]
  | ⟨e, _⟩ :: es => by simp [encodeList, encode_lists e, encodeList_lists es]

end

end Expr

@[simp] theorem encodeExpr_lists (e : Located Expr) :
    (encodeExpr e).Distinct ∧ (encodeExpr e).nameLists = [] := by
  simp [encodeExpr, e.node.encode_lists]

/-- The names of a declaration, as they stand in its document. -/
def VarDecl.encodeNames (d : VarDecl) : Json := .array (d.idents.map encodeIdent)

@[simp] theorem VarDecl.encode_lists (d : VarDecl) :
    d.encode.Distinct ∧ d.encode.nameLists = [d.encodeNames] := by
  simp [VarDecl.encode, VarDecl.encodeNames, lists_map encodeIdent_lists]

@[simp] theorem encodeVarDecl_lists (d : Located VarDecl) :
    (encodeVarDecl d).Distinct ∧ (encodeVarDecl d).nameLists = [d.node.encodeNames] := by
  simp [encodeVarDecl]

namespace Stmt

mutual

theorem encode_lists : (s : Stmt) →
    s.encode.Distinct ∧ s.encode.nameLists = s.varDecls.map VarDecl.encodeNames
  | .block body => by simp [encode, varDecls, nameLists_tagged, encodeList_lists body]
  | .ifThen c ⟨t, _⟩ => by simp [encode, encodeIf, varDecls, nameLists_tagged, encode_lists t]
  | .ifElse c ⟨t, _⟩ ⟨e, _⟩ => by
      simp [encode, encodeIf, varDecls, nameLists_tagged, encode_lists t, encode_lists e]
  | .loop c ⟨body, _⟩ => by simp [encode, varDecls, nameLists_tagged, encode_lists body]
  | .print value => by simp [encode, varDecls, nameLists_tagged]
  | .assign target value => by simp [encode, varDecls, nameLists_tagged]
  | .arrayAssign target index value => by simp [encode, varDecls, nameLists_tagged]
  | .varDecl decl => by simp [encode, varDecls, nameLists_tagged]

theorem encodeList_lists : (ss : List (Located Stmt)) → DistinctIn (encodeList ss) ∧
    nameListsIn (encodeList ss) = (varDeclsList ss).map VarDecl.encodeNames
  | [] => by simp [encodeList, varDeclsList]
  | ⟨s, _⟩ :: ss => by simp [encodeList, varDeclsList, encode_lists s, encodeList_lists ss]

end

end Stmt

@[simp] theorem encodeStmt_lists (s : Located Stmt) : (encodeStmt s).Distinct ∧
    (encodeStmt s).nameLists = s.node.varDecls.map VarDecl.encodeNames := by
  simp [encodeStmt, s.node.encode_lists]

@[simp] theorem encodeFormal_lists (f : Located Formal) :
    (encodeFormal f).Distinct ∧ (encodeFormal f).nameLists = [] := by
  simp [encodeFormal]

@[simp] theorem encodeMethod_lists (m : Located MethodDecl) : (encodeMethod m).Distinct ∧
    (encodeMethod m).nameLists =
      (Stmt.varDeclsList m.node.body).map VarDecl.encodeNames := by
  have hbody := Stmt.encodeList_lists m.node.body
  rw [Stmt.encodeList_eq_map] at hbody
  simp [encodeMethod, MethodDecl.encode, lists_map encodeFormal_lists, hbody]

@[simp] theorem encodeClass_lists (c : Located ClassDecl) : (encodeClass c).Distinct ∧
    (encodeClass c).nameLists = c.node.varDecls.map VarDecl.encodeNames := by
  obtain ⟨⟨name, _ | parent, fields, methods⟩, span⟩ := c <;>
    simp [encodeClass, ClassDecl.encode, ClassDecl.varDecls, nameLists_tagged,
      lists_map encodeVarDecl_lists, lists_map encodeMethod_lists, List.map_flatMap,
      ← List.map_eq_flatMap]

@[simp] theorem encodeMainClass_lists (c : Located MainClass) : (encodeMainClass c).Distinct ∧
    (encodeMainClass c).nameLists = c.node.body.node.varDecls.map VarDecl.encodeNames := by
  simp [encodeMainClass]

@[simp] theorem encodeProgram_lists (p : Located Program) : (encodeProgram p).Distinct ∧
    (encodeProgram p).nameLists = p.node.varDecls.map VarDecl.encodeNames := by
  simp [encodeProgram, Program.varDecls, lists_map encodeClass_lists, List.map_flatMap]

/-- The lists of names in a document are those of the declarations, in source order. -/
theorem Node.encode_lists (n : Node) :
    n.encode.Distinct ∧ n.encode.nameLists = n.varDecls.map VarDecl.encodeNames := by
  cases n <;> simp [Node.encode, Node.varDecls]

end Documents

end MiniJava
