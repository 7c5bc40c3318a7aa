import MiniJava.Proofs.Layout.Steps
import MiniJava.Proofs.Outline.Heading
import MiniJava.Proofs.Syntax.Names
import MiniJava.Proofs.Syntax.Spans

/-!
Indentation of printed text. Statements, declarations, methods and the main class are printed as
whole lines, none of them empty, and the level that they are printed at only puts the same spaces in
front of each line.
-/
namespace MiniJava

/-- The text consists of these lines, each ended by a newline, and none of them is empty. -/
structure HasLines (text : String) (ls : List String) : Prop where
  ne_nil : ls ≠ []
  line_ne_empty : ∀ l ∈ ls, l ≠ ""
  newline_notMem : ∀ l ∈ ls, '\n' ∉ l.toList
  text_eq : text = String.join (ls.map (· ++ "\n"))

/-! ## Text without newlines -/

abbrev OneLine (text : String) : Prop := '\n' ∉ text.toList

@[simp] theorem newline_mem_parenthesize {demanded actual : Nat} {text : String} :
    '\n' ∈ (parenthesize demanded actual text).toList ↔ '\n' ∈ text.toList := by
  unfold parenthesize
  split <;> simp

theorem OneLine.commaSeparated : {texts : List String} → (∀ t ∈ texts, OneLine t) →
    OneLine (commaSeparated texts)
  | [], _ => by decide
  | [t], h => by simpa [MiniJava.commaSeparated] using h
  | t :: t' :: ts, h => by
      rw [List.forall_mem_cons] at h
      simp [OneLine, commaSeparated_cons_cons, h.1, commaSeparated h.2]

theorem Ty.text_oneLine {t : Ty} (h : t.AllNames OneLine) : OneLine t.text := by
  cases t with
  | named name => exact h
  | _ => decide

theorem BinaryOp.symbol_oneLine (op : BinaryOp) : OneLine op.symbol := by cases op <;> decide

namespace Expr

mutual

theorem text_oneLine : (e : Expr) → e.AllNames OneLine → OneLine e.text
  | .binary op ⟨l, _⟩ ⟨r, _⟩, h => by
      simp [OneLine, text, text_oneLine l h.1, op.symbol_oneLine, text_oneLine r h.2]
  | .lookup ⟨a, _⟩ ⟨i, _⟩, h => by
      simp [OneLine, text, text_oneLine a h.1, text_oneLine i h.2]
  | .length ⟨a, _⟩, h => by simp [OneLine, text, text_oneLine a h]
  | .call ⟨r, _⟩ _ args, h => by
      have hargs := OneLine.commaSeparated (texts_oneLine args h.2.2)
      simp [OneLine, text, text_oneLine r h.1, h.2.1, hargs]
  | .int value, _ => by
      rw [text]
      exact newline_notMem_int value.toInt
  | .bool true, _ => by decide
  | .bool false, _ => by decide
  | .var _, h => h
  | .this, _ => by decide
  | .newArray ⟨n, _⟩, h => by simp [OneLine, text, text_oneLine n h]
  | .newObject className, h => by
      have hname : OneLine className.node := h
      simp [OneLine, text, hname]
  | .not ⟨e, _⟩, h => by simp [OneLine, text, text_oneLine e h]

theorem texts_oneLine : (es : List (Located Expr)) → AllNamesList OneLine es →
    ∀ t ∈ texts es, OneLine t
  | [], _ => by simp [texts]
  | ⟨e, _⟩ :: es, h => by
      rw [texts, List.forall_mem_cons]
      exact ⟨text_oneLine e h.1, texts_oneLine es h.2⟩

end

end Expr

/-! ## Lines without newlines -/

namespace Line

/-- The line holds text, and the text goes on no other line. -/
def Full : Line → Prop
  | .code _ text => text ≠ "" ∧ OneLine text
  | .blank => False

@[simp] theorem full_code {depth : Nat} {text : String} :
    Full (.code depth text) ↔ text ≠ "" ∧ OneLine text := Iff.rfl

theorem full_deeper {l : Line} : l.deeper.Full ↔ l.Full := by cases l <;> rfl

end Line

namespace Lines

def AllFull (ls : List Line) : Prop := ∀ l ∈ ls, l.Full

@[simp] theorem allFull_nil : AllFull [] := fun _ hl => absurd hl List.not_mem_nil

@[simp] theorem allFull_cons {l : Line} {ls : List Line} :
    AllFull (l :: ls) ↔ l.Full ∧ AllFull ls := List.forall_mem_cons

@[simp] theorem allFull_append {ls ls' : List Line} :
    AllFull (ls ++ ls') ↔ AllFull ls ∧ AllFull ls' := List.forall_mem_append

@[simp] theorem allFull_nest {ls : List Line} : AllFull (nest ls) ↔ AllFull ls := by
  simp [AllFull, nest, Line.full_deeper]

@[simp] theorem allFull_closing {braced : Bool} : AllFull (closing braced) := by
  cases braced <;> simp [closing, OneLine]

theorem allFull_clause {header : String} {braced : Bool} {body : List Line} (hne : header ≠ "")
    (hline : OneLine header) : AllFull (clause header braced body) ↔ AllFull body := by
  cases braced <;> simp [clause, hne, hline, OneLine]

theorem allFull_standing {block : Bool} {body : List Line} :
    AllFull (standing block body) ↔ AllFull body := by
  cases block <;> simp [standing, clause, OneLine]

end Lines

/-! ## Printed lines -/

theorem VarDecl.text_full {d : VarDecl} (h : d.AllNames OneLine) (depth : Nat) :
    (Line.code depth d.text).Full := by
  have hnames : ∀ t ∈ d.names, OneLine t := by simpa [VarDecl.names] using h.2
  simp [VarDecl.text, OneLine, Ty.text_oneLine h.1, OneLine.commaSeparated hnames]

namespace Stmt

open Lines

mutual

theorem bodyLines_full : (s : Stmt) → s.AllNames OneLine → AllFull s.bodyLines
  | .block body, h => linesList_full body h
  | .ifThen ⟨c, _⟩ ⟨t, _⟩, h => by
      simp [bodyLines, allFull_clause, OneLine, Expr.text_oneLine c h.1, bodyLines_full t h.2]
  | .ifElse ⟨c, _⟩ ⟨t, _⟩ ⟨e, _⟩, h => by
      have hthen (braced : Bool) :
          AllFull (clause ("if (" ++ c.text ++ ")") braced t.bodyLines) := by
        simp [allFull_clause, OneLine, Expr.text_oneLine c h.1, bodyLines_full t h.2.1]
      have helse (braced : Bool) :
          AllFull (clause (if braced then "\x7d else" else "else") e.isBlock e.bodyLines) := by
        cases braced <;> simp [allFull_clause, OneLine, bodyLines_full e h.2.2]
      simp only [bodyLines, allFull_append]
      exact ⟨⟨hthen _, helse _⟩, allFull_closing⟩
  | .loop ⟨c, _⟩ ⟨body, _⟩, h => by
      simp [bodyLines, allFull_clause, OneLine, Expr.text_oneLine c h.1, bodyLines_full body h.2]
  | .print value, h => by simp [bodyLines, OneLine, Expr.text_oneLine value.node h]
  | .assign target value, h => by
      simp [bodyLines, OneLine, h.1, Expr.text_oneLine value.node h.2]
  | .arrayAssign target index value, h => by
      simp [bodyLines, OneLine, h.1, Expr.text_oneLine index.node h.2.1,
        Expr.text_oneLine value.node h.2.2]
  | .varDecl decl, h => by simpa [bodyLines] using VarDecl.text_full h 0

theorem linesList_full : (ss : List (Located Stmt)) → AllNamesList OneLine ss →
    AllFull (linesList ss)
  | [], _ => by simp [linesList]
  | ⟨s, _⟩ :: ss, h => by
      simp [linesList, allFull_standing, bodyLines_full s h.1, linesList_full ss h.2]

end

theorem lines_full {s : Stmt} (h : s.AllNames OneLine) : AllFull s.lines :=
  allFull_standing.mpr (bodyLines_full s h)

end Stmt

open Lines

theorem allFull_braces {header : String} {body : List Line} (hne : header ≠ "")
    (hline : OneLine header) : AllFull (braces header body) ↔ AllFull body := by
  simp [braces, allFull_clause hne hline]

theorem MethodDecl.lines_full {m : MethodDecl} (h : m.AllNames OneLine) : AllFull m.lines := by
  have hformals : ∀ t ∈ m.formals.map (·.node.text), OneLine t := by
    intro t ht
    obtain ⟨f, hf, rfl⟩ := List.mem_map.mp ht
    have hformal := h.formals f hf
    simp [Formal.text, OneLine, Ty.text_oneLine hformal.1, hformal.2]
  have hheader : OneLine m.header := by
    simp [header, OneLine, Ty.text_oneLine h.returnType, h.name, OneLine.commaSeparated hformals]
  rw [lines, allFull_braces (by simp [header]) hheader]
  simp [OneLine, Stmt.linesList_full m.body h.body, Expr.text_oneLine _ h.returnExpr]

theorem MainClass.lines_full {c : MainClass} (h : c.AllNames OneLine) : AllFull c.lines := by
  rw [lines, allFull_braces (by simp) (by simp [OneLine, h.name]),
    allFull_braces (by simp) (by simp [OneLine, h.args])]
  exact Stmt.lines_full h.body

/-! ## Levels -/

/-- The line as it stands at level 0. -/
def Line.content (width : Nat) : Line → String
  | .code depth text => spaces (depth * width) ++ text
  | .blank => ""

theorem spaces_add (m n : Nat) : spaces (m + n) = spaces m ++ spaces n := by
  rw [spaces, ← List.replicate_append_replicate, String.ofList_append]
  rfl

theorem Line.Full.text_eq {l : Line} (h : l.Full) (width level : Nat) :
    l.text width level = spaces (level * width) ++ l.content width ++ "\n" := by
  cases l with
  | code depth text => simp only [Line.text, content, Nat.add_mul, spaces_add, String.append_assoc]
  | blank => exact h.elim

theorem Line.Full.indented {l : Line} (h : l.Full) (width n : Nat) :
    spaces n ++ l.content width ≠ "" ∧ OneLine (spaces n ++ l.content width) := by
  cases l with
  | code depth text =>
      obtain ⟨hne, hline⟩ := h
      simp [content, OneLine, spaces, hne, hline]
  | blank => exact h.elim

/-- The level puts its spaces in front of every line. -/
theorem Lines.AllFull.hasLines {ls : List Line} (h : AllFull ls) (hne : ls ≠ [])
    (width level : Nat) :
    HasLines (text width level ls)
      ((ls.map (Line.content width)).map (spaces (level * width) ++ ·)) where
  ne_nil := by simpa using hne
  line_ne_empty := by
    rw [List.forall_mem_map, List.forall_mem_map]
    exact fun l hl => ((h l hl).indented width (level * width)).1
  newline_notMem := by
    rw [List.forall_mem_map, List.forall_mem_map]
    exact fun l hl => ((h l hl).indented width (level * width)).2
  text_eq := by
    rw [text, List.map_map, List.map_map]
    exact congrArg String.join (List.map_congr_left fun l hl => (h l hl).text_eq width level)

namespace Node

theorem layout_full {n : Node} (hkind : n.kind ∈ [NodeKind.stmt, .varDecl, .methodDecl, .mainClass])
    (hnames : n.AllNames OneLine) : ∃ ls, n.layout = .lines ls ∧ AllFull ls ∧ ls ≠ [] := by
  cases n with
  | stmt s =>
      refine ⟨_, rfl, Stmt.lines_full hnames, ?_⟩
      cases hs : s.node <;> simp [Stmt.lines, Stmt.bodyLines, Stmt.isBlock, standing, clause]
  | varDecl d =>
      refine ⟨_, rfl, ?_, List.cons_ne_nil _ _⟩
      simpa using VarDecl.text_full hnames 0
  | methodDecl m => exact ⟨_, rfl, MethodDecl.lines_full hnames, List.cons_ne_nil _ _⟩
  | mainClass c => exact ⟨_, rfl, MainClass.lines_full hnames, List.cons_ne_nil _ _⟩
  | _ => simp [kind] at hkind

/-- What is printed of a statement, a declaration, a method or the main class is whole lines, and
none of them is empty; at a deeper level the lines are the same, with the spaces of the level in
front of every one. -/
theorem lines_shift_with_level {n : Node}
    (hkind : n.kind ∈ [NodeKind.stmt, .varDecl, .methodDecl, .mainClass])
    (hnames : n.AllNames fun name => '\n' ∉ name.toList) (config : Config) :
    let printed (level : Nat) := (({ config := config, level := level } : Printer).visit n).output
    ∃ ls : List String, HasLines (printed 0) ls ∧
      ∀ level, HasLines (printed level) (ls.map (spaces (level * config.indentWidth) ++ ·)) := by
  intro printed
  obtain ⟨ls, hlayout, hfull, hne⟩ := layout_full hkind hnames
  have hprinted (level : Nat) : printed level = Lines.text config.indentWidth level ls := by
    show "" ++ n.layout.text config.indentWidth level = _
    rw [hlayout, String.empty_append]
    rfl
  have hlines (level : Nat) := hfull.hasLines hne config.indentWidth level
  refine ⟨ls.map (Line.content config.indentWidth), ?_, fun level => hprinted level ▸ hlines level⟩
  have hzero := hlines 0
  have hspaces : spaces (0 * config.indentWidth) = "" := by rw [Nat.zero_mul]; rfl
  simp only [hspaces, String.empty_append, List.map_id'] at hzero
  rw [hprinted]
  exact hzero

/-- `if (a) { int x; } else while (b) if (c) x = -1;`, where a closing brace shares its line with
the `else` and the two bodies after that have lines of their own. -/
theorem lines_shift_with_level_else :
    let assign : Stmt := .assign (.nowhere "x") (.nowhere (.int (-1)))
    let loop : Stmt := .loop (.nowhere (.var "b"))
      (.nowhere (.ifThen (.nowhere (.var "c")) (.nowhere assign)))
    let decl : Stmt := .varDecl (.single (.nowhere .integer) (.nowhere "x"))
    let n : Node := .stmt (.nowhere (.ifElse (.nowhere (.var "a"))
      (.nowhere (.block [.nowhere decl])) (.nowhere loop)))
    let printed (level : Nat) :=
      (({ config := { indentWidth := 2 }, level := level } : Printer).visit n).output
    (n.kind ∈ [NodeKind.stmt, .varDecl, .methodDecl, .mainClass] ∧
      n.AllNames fun name => '\n' ∉ name.toList) ∧
    ∃ ls : List String, HasLines (printed 0) ls ∧
      ∀ level, HasLines (printed level) (ls.map (spaces (level * 2) ++ ·)) := by
  intro assign loop decl n printed
  have hkind : n.kind ∈ [NodeKind.stmt, .varDecl, .methodDecl, .mainClass] := by decide
  have ha : '\n' ∉ "a".toList := by decide
  have hb : '\n' ∉ "b".toList := by decide
  have hc : '\n' ∉ "c".toList := by decide
  have hx : '\n' ∉ "x".toList := by decide
  have hdecl : decl.AllNames fun name => '\n' ∉ name.toList :=
    ⟨trivial, fun id hid => List.mem_singleton.mp hid ▸ hx⟩
  have hnames : n.AllNames fun name => '\n' ∉ name.toList :=
    ⟨ha, ⟨hdecl, trivial⟩, hb, hc, hx, trivial⟩
  exact ⟨⟨hkind, hnames⟩, lines_shift_with_level hkind hnames { indentWidth := 2 }⟩

end Node

end MiniJava
