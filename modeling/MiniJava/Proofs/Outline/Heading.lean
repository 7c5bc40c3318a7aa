import Mathlib.Data.List.Nodup
import MiniJava.Outline
import MiniJava.Proofs.Grammar.Scan
import MiniJava.Proofs.Outline.Text
import MiniJava.Proofs.Tree.Names

/-!
What a heading tells of a node: the construct, and the value or name of a leaf. A heading can be
read back, since no construct has a space in its name and no two have the same name.
-/
namespace MiniJava

namespace Construct

def all : List Construct :=
  [.program, .mainClass, .rootClass, .derivedClass, .varDecl, .methodDecl, .formal, .intArrayType,
    .booleanType, .integerType, .namedType, .block, .conditional, .loop, .print, .assign,
    .arrayAssign, .binary .and, .binary .lessThan, .binary .plus, .binary .minus, .binary .times,
    .lookup, .length, .call, .intLiteral, .boolLiteral true, .boolLiteral false, .var, .this,
    .newArray, .newObject, .not, .ident]

theorem mem_all (c : Construct) : c ∈ all := by
  cases c with
  | binary op => cases op <;> decide
  | boolLiteral value => cases value <;> decide
  | _ => decide

theorem name_injective : Function.Injective name := by
  have hnodup : (all.map name).Nodup := by decide
  intro c c' h
  exact List.inj_on_of_nodup_map hnodup (mem_all c) (mem_all c') h

theorem name_letters (c : Construct) : c.name.toList ≠ [] ∧ ∀ d ∈ c.name.toList, d.isAlpha := by
  have hall : all.all (fun c => !c.name.toList.isEmpty && c.name.toList.all Char.isAlpha) := by
    decide
  have hc := List.all_eq_true.mp hall c (mem_all c)
  simpa using hc

theorem notMem_name (c : Construct) {d : Char} (hd : ¬d.isAlpha) : d ∉ c.name.toList :=
  fun hmem => hd (c.name_letters.2 d hmem)

end Construct

namespace Outline

/-- What a heading tells of a node. -/
inductive Tag where
  | bare (construct : Construct)
  | int (value : Int64)
  | var (name : String)
  | namedType (name : String)
  | ident (name : String)

namespace Tag

def construct : Tag → Construct
  | .bare c => c
  | .int _ => .intLiteral
  | .var _ => .var
  | .namedType _ => .namedType
  | .ident _ => .ident

/-- The text of the value or name. -/
def leaf? : Tag → Option String
  | .bare _ => none
  | .int value => some (toString value.toInt)
  | .var name | .namedType name | .ident name => some name

def text (t : Tag) : String :=
  match t.leaf? with
  | none => t.construct.name
  | some leaf => t.construct.name ++ " " ++ leaf

theorem toList_text (t : Tag) :
    t.text.toList = t.construct.name.toList ++ t.leaf?.elim [] (' ' :: ·.toList) := by
  cases h : t.leaf? <;> simp [text, h]

theorem append_leaf_inj {cs cs' : List Char} (hs : ' ' ∉ cs) (hs' : ' ' ∉ cs') :
    {leaf leaf' : Option String} →
    cs ++ leaf.elim [] (' ' :: ·.toList) = cs' ++ leaf'.elim [] (' ' :: ·.toList) →
    cs = cs' ∧ leaf = leaf'
  | none, none, h => by
      rw [Option.elim_none, List.append_nil, List.append_nil] at h
      exact ⟨h, rfl⟩
  | none, some leaf', h => by
      rw [Option.elim_none, Option.elim_some, List.append_nil] at h
      exact absurd (h ▸ List.mem_append_right cs' List.mem_cons_self) hs
  | some leaf, none, h => by
      rw [Option.elim_none, Option.elim_some, List.append_nil] at h
      exact absurd (h ▸ List.mem_append_right cs List.mem_cons_self) hs'
  | some leaf, some leaf', h => by
      rw [Option.elim_some, Option.elim_some] at h
      obtain ⟨hname, hleaf⟩ := append_cons_inj hs hs' h
      exact ⟨hname, congrArg some (String.toList_inj.mp hleaf)⟩

/-- The text of a literal can be read back: a scanner finds its value in it. -/
theorem literal_injective {value value' : Int64}
    (h : toString value.toInt = toString value'.toInt) : value = value' := by
  have hscan (n : Int) : Token.scan [] (toString n).toList = [.int n] := by
    rw [← List.append_nil (toString n).toList, Token.scan_int n Token.ends_nil, Token.scan_nil]
  have htokens : [Token.int value.toInt] = [.int value'.toInt] := by rw [← hscan, h, hscan]
  exact Int64.toInt_inj.mp (Token.int.inj (List.cons.inj htokens).1)

theorem text_injective : Function.Injective text := by
  intro t t' h
  have hspace (c : Construct) : ' ' ∉ c.name.toList := c.notMem_name (by decide)
  have hlist : t.text.toList = t'.text.toList := congrArg String.toList h
  rw [toList_text, toList_text] at hlist
  obtain ⟨hname, hleaf⟩ := append_leaf_inj (hspace _) (hspace _) hlist
  have hconstruct : t.construct = t'.construct :=
    Construct.name_injective (String.toList_inj.mp hname)
  -- Tags that are built differently differ in their construct, or only one of them has a leaf.
  cases t with
  | bare c =>
      cases t' with
      | bare c' => exact congrArg bare hconstruct
      | _ => cases hleaf
  | int value =>
      cases t' with
      | int value' => exact congrArg int (literal_injective (Option.some.inj hleaf))
      | bare c' => cases hleaf
      | _ => cases hconstruct
  | var name =>
      cases t' with
      | var name' => exact congrArg var (Option.some.inj hleaf)
      | bare c' => cases hleaf
      | _ => cases hconstruct
  | namedType name =>
      cases t' with
      | namedType name' => exact congrArg namedType (Option.some.inj hleaf)
      | bare c' => cases hleaf
      | _ => cases hconstruct
  | ident name =>
      cases t' with
      | ident name' => exact congrArg ident (Option.some.inj hleaf)
      | bare c' => cases hleaf
      | _ => cases hconstruct

end Tag

end Outline

theorem newline_notMem_int (n : Int) : '\n' ∉ (toString n).toList := by
  have hdigits (m : Nat) : '\n' ∉ m.repr.toList := by
    rw [Nat.toList_repr]
    exact fun hmem => absurd (Nat.isDigit_of_mem_toDigits (by decide) (by decide) hmem) (by decide)
  rw [Int.toString_eq_repr, Int.repr_eq_if]
  split
  · exact hdigits _
  · rw [String.toList_append, List.mem_append, not_or]
    exact ⟨by decide, hdigits _⟩

namespace Node

open Outline

def tag : Node → Tag
  | .expr ⟨.int value, _⟩ => .int value
  | .expr ⟨.var name, _⟩ => .var name
  | .ty ⟨.named name, _⟩ => .namedType name
  | .ident i => .ident i.node
  | n => .bare n.construct

theorem heading_eq_text (n : Node) : n.heading = n.tag.text := by
  cases n with
  | expr e =>
      obtain ⟨e, span⟩ := e
      cases e <;> rfl
  | ty t =>
      obtain ⟨t, span⟩ := t
      cases t <;> rfl
  | _ => rfl

/-- A heading is on one line if the name in it is. -/
theorem newline_notMem_leaf {n : Node} (h : ∀ name ∈ n.name?, '\n' ∉ name.toList) :
    ∀ leaf ∈ n.tag.leaf?, '\n' ∉ leaf.toList := by
  cases n with
  | expr e =>
      obtain ⟨e, span⟩ := e
      cases e with
      | int value =>
          rintro leaf ⟨⟩
          exact newline_notMem_int value.toInt
      | var name => exact h
      | _ => nofun
  | ty t =>
      obtain ⟨t, span⟩ := t
      cases t with
      | named name => exact h
      | _ => nofun
  | ident i => exact h
  | _ => nofun

theorem heading_legible {n : Node} (h : ∀ name ∈ n.name?, '\n' ∉ name.toList) (depth : Nat) :
    (Line.code depth n.heading).Legible := by
  have hletters := n.tag.construct.name_letters
  have hleaf := newline_notMem_leaf h
  rw [Line.Legible, heading_eq_text, Tag.toList_text]
  constructor
  · rw [List.mem_append, not_or]
    refine ⟨Construct.notMem_name _ (by decide), ?_⟩
    cases hl : n.tag.leaf? with
    | none => nofun
    | some leaf =>
        rw [Option.elim_some, List.mem_cons, not_or]
        exact ⟨by decide, hleaf leaf hl⟩
  · obtain ⟨c, cs, hcs⟩ := List.exists_cons_of_ne_nil hletters.1
    rw [hcs] at hletters ⊢
    intro hhead
    have hc : c = ' ' := Option.some.inj hhead
    exact absurd (hc ▸ hletters.2 c List.mem_cons_self) (by decide)

end Node

end MiniJava
