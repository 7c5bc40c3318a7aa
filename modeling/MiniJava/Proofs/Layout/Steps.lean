import Mathlib.Data.List.Forall2
import MiniJava.Layout.Printer

/-!
Printing one step at a time. A step writes a piece of text, indents a line for the level that the
printer is at, or takes other steps one level deeper and comes back. However the steps of a node are
nested, they leave what a visit leaves: the text of the node, and the level it was printed at.
-/
namespace MiniJava

theorem commaSeparated_cons_cons (t t' : String) (ts : List String) :
    commaSeparated (t :: t' :: ts) = t ++ ", " ++ commaSeparated (t' :: ts) :=
  String.intercalate_cons_cons

namespace Lines

theorem text_append (width level : Nat) (ls ls' : List Line) :
    text width level (ls ++ ls') = text width level ls ++ text width level ls' := by
  simp [text]

theorem text_singleton (width level : Nat) (l : Line) :
    text width level [l] = l.text width level := by
  rw [text_cons]
  exact String.append_empty

theorem text_nest (width level : Nat) (ls : List Line) :
    text width level (nest ls) = text width (level + 1) ls := by
  have hline (l : Line) : l.deeper.text width level = l.text width (level + 1) := by
    cases l with
    | code depth text => rw [Line.deeper, Line.text, Line.text, Nat.add_right_comm, Nat.add_assoc]
    | blank => rfl
  simp only [text, nest, List.map_map, Function.comp_def, hline]

end Lines

namespace Printer

/-! ## Steps -/

def write (p : Printer) (text : String) : Printer := { p with output := p.output ++ text }

/-- Write the spaces that a line starts with. -/
def indent (p : Printer) : Printer := p.write (spaces (p.level * p.config.indentWidth))

/-- Take the steps one level deeper. -/
def nested (p : Printer) (steps : Printer → Printer) : Printer :=
  let q := steps { p with level := p.level + 1 }
  { q with level := q.level - 1 }

/-- Take the steps one after the other with a comma between them. -/
def separated : Printer → List (Printer → Printer) → Printer
  | p, [] => p
  | p, [step] => step p
  | p, step :: step' :: steps => separated ((step p).write ", ") (step' :: steps)

/-- Write an operand, in parentheses when it binds looser than its place demands. -/
def operand (p : Printer) (demanded actual : Nat) (steps : Printer → Printer) : Printer :=
  if actual < demanded then (steps (p.write "(")).write ")" else steps p

mutual

def writeExpr : Printer → Expr → Printer
  | p, .binary op ⟨l, _⟩ ⟨r, _⟩ =>
    let p := p.operand op.precedence l.precedence (writeExpr · l)
    let p := ((p.write " ").write op.symbol).write " "
    p.operand (op.precedence + 1) r.precedence (writeExpr · r)
  | p, .lookup ⟨a, _⟩ ⟨i, _⟩ =>
    let p := p.operand Expr.postfixPrecedence a.precedence (writeExpr · a)
    (writeExpr (p.write "[") i).write "]"
  | p, .length ⟨a, _⟩ =>
    (p.operand Expr.postfixPrecedence a.precedence (writeExpr · a)).write ".length"
  | p, .call ⟨r, _⟩ method args =>
    let p := p.operand Expr.postfixPrecedence r.precedence (writeExpr · r)
    let p := ((p.write ".").write method.node).write "("
    (p.separated (argSteps args)).write ")"
  | p, .int value => p.write (toString value.toInt)
  | p, .bool true => p.write "true"
  | p, .bool false => p.write "false"
  | p, .var name => p.write name
  | p, .this => p.write "this"
  | p, .newArray ⟨n, _⟩ => (writeExpr (p.write "new int[") n).write "]"
  | p, .newObject className => ((p.write "new ").write className.node).write "()"
  | p, .not ⟨e, _⟩ => (p.write "!").operand Expr.unaryPrecedence e.precedence (writeExpr · e)

def argSteps : List (Located Expr) → List (Printer → Printer)
  | [] => []
  | ⟨e, _⟩ :: es => (writeExpr · e) :: argSteps es

end

def writeVarDecl (p : Printer) (d : VarDecl) : Printer :=
  let p := (p.indent.write d.ty.node.text).write " "
  (p.separated (d.idents.map fun id q => q.write id.node)).write ";\n"

def writeFormal (p : Printer) (f : Formal) : Printer :=
  ((p.write f.ty.node.text).write " ").write f.name.node

/-- Write the body of a header. In braces it opens on the line of the header and leaves the line of
its closing brace open; without them it has lines of its own. -/
def writeBody (p : Printer) (braced : Bool) (steps : Printer → Printer) : Printer :=
  if braced then (((p.write " \x7b\n").nested steps).indent).write "\x7d"
  else (p.write "\n").nested steps

/-- End the line of a closing brace. -/
def endLine (p : Printer) (braced : Bool) : Printer := if braced then p.write "\n" else p

/-- Write a statement that stands by itself. -/
def standing (p : Printer) (block : Bool) (steps : Printer → Printer) : Printer :=
  if block then (((p.indent.write "\x7b\n").nested steps).indent).write "\x7d\n" else steps p

mutual

/-- Write the statement as it stands in a body: of a block, the statements in it. -/
def writeInner : Printer → Stmt → Printer
  | p, .block body => writeStmts p body
  | p, .ifThen ⟨c, _⟩ ⟨t, _⟩ =>
    let p := ((p.indent.write "if (").writeExpr c).write ")"
    (p.writeBody t.isBlock (writeInner · t)).endLine t.isBlock
  | p, .ifElse ⟨c, _⟩ ⟨t, _⟩ ⟨e, _⟩ =>
    let braced := t.isBlock || t.endsInOpenIf
    let p := ((p.indent.write "if (").writeExpr c).write ")"
    let p := p.writeBody braced (writeInner · t)
    let p := if braced then p.write " else" else p.indent.write "else"
    (p.writeBody e.isBlock (writeInner · e)).endLine e.isBlock
  | p, .loop ⟨c, _⟩ ⟨body, _⟩ =>
    let p := ((p.indent.write "while (").writeExpr c).write ")"
    (p.writeBody body.isBlock (writeInner · body)).endLine body.isBlock
  | p, .print value => ((p.indent.write "System.out.println(").writeExpr value.node).write ");\n"
  | p, .assign target value =>
    let p := (p.indent.write target.node).write " = "
    (p.writeExpr value.node).write ";\n"
  | p, .arrayAssign target index value =>
    let p := ((p.indent.write target.node).write "[").writeExpr index.node
    ((p.write "] = ").writeExpr value.node).write ";\n"
  | p, .varDecl decl => p.writeVarDecl decl

def writeStmts : Printer → List (Located Stmt) → Printer
  | p, [] => p
  | p, ⟨s, _⟩ :: ss => writeStmts (p.standing s.isBlock (writeInner · s)) ss

end

/-- Write what is between the braces of a method. -/
def writeMethodBody (p : Printer) (m : MethodDecl) : Printer :=
  (((p.writeStmts m.body).indent.write "return ").writeExpr m.returnExpr.node).write ";\n"

def writeMethod (p : Printer) (m : MethodDecl) : Printer :=
  let p := (((p.indent.write "public ").write m.returnType.node.text).write " ").write m.name.node
  let p := (p.write "(").separated (m.formals.map fun f q => q.writeFormal f.node)
  ((p.write ") \x7b\n").nested (writeMethodBody · m)).indent.write "\x7d\n"

/-- Write the methods, each after an empty line unless it is at the top. -/
def writeMethods : Printer → Bool → List (Located MethodDecl) → Printer
  | p, _, [] => p
  | p, atTop, m :: ms =>
    writeMethods ((if atTop then p else p.write "\n").writeMethod m.node) false ms

/-- Write what is between the braces of a class. -/
def writeMembers (p : Printer) (c : ClassDecl) : Printer :=
  (c.fields.foldl (fun p d => p.writeVarDecl d.node) p).writeMethods c.fields.isEmpty c.methods

def writeClass (p : Printer) (c : ClassDecl) : Printer :=
  let p := (p.indent.write "class ").write c.name.node
  let p := match c.parent with
    | some parent => (p.write " extends ").write parent.node
    | none => p
  ((p.write " \x7b\n").nested (writeMembers · c)).indent.write "\x7d\n"

def writeStmt (p : Printer) (s : Stmt) : Printer := p.standing s.isBlock (writeInner · s)

def writeMainMethod (p : Printer) (c : MainClass) : Printer :=
  let p := (p.indent.write "public static void main(String[] ").write c.args.node
  ((p.write ") \x7b\n").nested (writeStmt · c.body.node)).indent.write "\x7d\n"

def writeMainClass (p : Printer) (c : MainClass) : Printer :=
  let p := ((p.indent.write "class ").write c.name.node).write " \x7b\n"
  (p.nested (writeMainMethod · c)).indent.write "\x7d\n"

def writeProgram (p : Printer) (program : Program) : Printer :=
  let p := { p with trace := p.trace.push (.printingProgram program.classes.length) }
  program.classes.foldl (fun p c => (p.write "\n").writeClass c.node)
    (p.writeMainClass program.mainClass.node)

/-- Write the node one step at a time. -/
def writeNode (p : Printer) : Node → Printer
  | .program program => p.writeProgram program.node
  | .mainClass c => p.writeMainClass c.node
  | .classDecl c => p.writeClass c.node
  | .varDecl d => p.writeVarDecl d.node
  | .methodDecl m => p.writeMethod m.node
  | .formal f => p.writeFormal f.node
  | .ty t => p.write t.node.text
  | .stmt s => p.writeStmt s.node
  | .expr e => p.writeExpr e.node
  | .ident i => p.write i.node

/-! ## Text within a line -/

@[simp] theorem write_write (p : Printer) (text text' : String) :
    (p.write text).write text' = p.write (text ++ text') := by
  rw [write, write, write, String.append_assoc]

theorem write_empty (p : Printer) : p.write "" = p := by
  rw [write, String.append_empty]

/-- The steps write the text, and nothing else happens. -/
def Writes (steps : Printer → Printer) (text : String) : Prop :=
  ∀ p : Printer, steps p = p.write text

theorem separated_eq {steps : List (Printer → Printer)} {texts : List String}
    (h : List.Forall₂ Writes steps texts) (p : Printer) :
    p.separated steps = p.write (commaSeparated texts) := by
  induction h generalizing p with
  | nil => exact p.write_empty.symm
  | @cons step text steps texts hstep htail ih =>
      cases htail with
      | nil => rw [separated, hstep, commaSeparated, String.intercalate_singleton]
      | cons hstep' htail' =>
          rw [separated, ih, hstep, write_write, write_write, commaSeparated_cons_cons,
            String.append_assoc]

theorem separated_map {α : Type} {step : α → Printer → Printer} {text : α → String}
    (h : ∀ a, Writes (step a) (text a)) (as : List α) (p : Printer) :
    p.separated (as.map step) = p.write (commaSeparated (as.map text)) := by
  refine separated_eq ?_ p
  rw [List.forall₂_map_left_iff, List.forall₂_map_right_iff, List.forall₂_same]
  exact fun a _ => h a

theorem operand_eq {steps : Printer → Printer} {text : String} (h : Writes steps text)
    (demanded actual : Nat) (p : Printer) :
    p.operand demanded actual steps = p.write (parenthesize demanded actual text) := by
  unfold operand parenthesize
  split
  · rw [h, write_write, write_write, String.append_assoc]
  · exact h p

mutual

theorem writeExpr_eq : (e : Expr) → (p : Printer) → p.writeExpr e = p.write e.text
  | .binary _ ⟨l, _⟩ ⟨r, _⟩, p => by
      simp only [writeExpr, Expr.text, operand_eq (writeExpr_eq l), operand_eq (writeExpr_eq r),
        write_write, String.append_assoc]
  | .lookup ⟨a, _⟩ ⟨i, _⟩, p => by
      simp only [writeExpr, Expr.text, operand_eq (writeExpr_eq a), writeExpr_eq i, write_write,
        String.append_assoc]
  | .length ⟨a, _⟩, p => by
      simp only [writeExpr, Expr.text, operand_eq (writeExpr_eq a), write_write]
  | .call ⟨r, _⟩ _ args, p => by
      simp only [writeExpr, Expr.text, operand_eq (writeExpr_eq r), separated_eq (argSteps_eq args),
        write_write, String.append_assoc]
  | .int _, _ => rfl
  | .bool true, _ => rfl
  | .bool false, _ => rfl
  | .var _, _ => rfl
  | .this, _ => rfl
  | .newArray ⟨n, _⟩, p => by
      simp only [writeExpr, Expr.text, writeExpr_eq n, write_write, String.append_assoc]
  | .newObject _, p => by
      simp only [writeExpr, Expr.text, write_write, String.append_assoc]
  | .not ⟨e, _⟩, p => by
      simp only [writeExpr, Expr.text, operand_eq (writeExpr_eq e), write_write]

theorem argSteps_eq : (es : List (Located Expr)) →
    List.Forall₂ Writes (argSteps es) (Expr.texts es)
  | [] => .nil
  | ⟨e, _⟩ :: es => .cons (writeExpr_eq e) (argSteps_eq es)

end

theorem writeFormal_eq (f : Formal) (p : Printer) : p.writeFormal f = p.write f.text := by
  simp only [writeFormal, Formal.text, write_write, String.append_assoc]

/-! ## Lines -/

/-- Write the lines at the level that the printer is at. -/
def writeLines (p : Printer) (ls : List Line) : Printer :=
  p.write (Lines.text p.config.indentWidth p.level ls)

/-- The steps write the lines at whatever level they are taken, and nothing else happens. -/
def WritesLines (steps : Printer → Printer) (ls : List Line) : Prop :=
  ∀ p : Printer, steps p = p.writeLines ls

@[simp] theorem writeLines_writeLines (p : Printer) (ls ls' : List Line) :
    (p.writeLines ls).writeLines ls' = p.writeLines (ls ++ ls') := by
  rw [writeLines, writeLines, writeLines, Lines.text_append, ← write_write]
  rfl

theorem writeLines_nil (p : Printer) : p.writeLines [] = p := p.write_empty

theorem indent_line (p : Printer) (text : String) :
    p.indent.write (text ++ "\n") = p.writeLines [.code 0 text] := by
  rw [indent, write_write, writeLines, Lines.text_singleton, Line.text, Nat.add_zero,
    String.append_assoc]

theorem write_newline (p : Printer) : p.write "\n" = p.writeLines [.blank] := by
  rw [writeLines, Lines.text_singleton, Line.text]

/-- Coming back from a deeper level, the printer is where it was. -/
theorem nested_eq {steps : Printer → Printer} {ls : List Line} (h : WritesLines steps ls)
    (p : Printer) : p.nested steps = p.writeLines (Lines.nest ls) := by
  rw [nested, h, writeLines, writeLines, Lines.text_nest]
  rfl

/-- The lines that a brace opens and closes end after it. -/
theorem opening_eq (header : String) : header ++ " \x7b\n" = header ++ " \x7b" ++ "\n" := by
  rw [String.append_assoc]
  rfl

theorem closing_eq : "\x7d\n" = "\x7d" ++ "\n" := rfl

/-- A header that opens a brace, what is between the braces, and the closing brace. -/
theorem braces_eq {steps : Printer → Printer} {ls : List Line} (h : WritesLines steps ls)
    (header : String) (p : Printer) :
    ((p.indent.write (header ++ " \x7b\n")).nested steps).indent.write "\x7d\n" =
      p.writeLines (braces header ls) := by
  rw [opening_eq, indent_line, nested_eq h, closing_eq, indent_line, writeLines_writeLines,
    writeLines_writeLines]
  rfl

/-- A header and its body, with the line of the closing brace ended. -/
theorem writeBody_endLine {steps : Printer → Printer} {ls : List Line} (h : WritesLines steps ls)
    (header : String) (braced : Bool) (p : Printer) :
    ((p.indent.write header).writeBody braced steps).endLine braced =
      p.writeLines (clause header braced ls ++ closing braced) := by
  cases braced with
  | true =>
      simp only [writeBody, endLine, if_true, write_write]
      exact braces_eq h header p
  | false =>
      simp only [writeBody, endLine, Bool.false_eq_true, if_false]
      rw [write_write, indent_line, nested_eq h, writeLines_writeLines]
      exact congrArg p.writeLines (List.append_nil _).symm

/-- A header and its body, with an `else` on the line of the closing brace if there is one. -/
theorem writeBody_else {steps : Printer → Printer} {ls : List Line} (h : WritesLines steps ls)
    (header : String) (braced : Bool) (p : Printer) :
    (let q := (p.indent.write header).writeBody braced steps
      if braced then q.write " else" else q.indent.write "else") =
      (p.writeLines (clause header braced ls)).indent.write
        (if braced then "\x7d else" else "else") := by
  cases braced with
  | true =>
      simp only [writeBody, if_true, write_write]
      rw [opening_eq, indent_line, nested_eq h, writeLines_writeLines]
      rfl
  | false =>
      simp only [writeBody, Bool.false_eq_true, if_false]
      rw [write_write, indent_line, nested_eq h, writeLines_writeLines]
      rfl

theorem standing_eq {steps : Printer → Printer} {ls : List Line} (h : WritesLines steps ls)
    (block : Bool) (p : Printer) :
    p.standing block steps = p.writeLines (MiniJava.standing block ls) := by
  cases block with
  | true =>
      have hopen : "\x7b\n" = "\x7b" ++ "\n" := rfl
      simp only [standing, if_true]
      rw [hopen, indent_line, nested_eq h, closing_eq, indent_line, writeLines_writeLines,
        writeLines_writeLines]
      rfl
  | false => exact h p

theorem writeVarDecl_eq (d : VarDecl) (p : Printer) :
    p.writeVarDecl d = p.writeLines [.code 0 d.text] := by
  have hends : ";\n" = ";" ++ "\n" := rfl
  rw [← indent_line, writeVarDecl, separated_map fun id q => rfl]
  simp only [VarDecl.text, VarDecl.names, write_write, hends, String.append_assoc]

/-- The words of a header that has a condition. -/
theorem condition_eq (start : String) (c : Expr) (p : Printer) :
    ((p.indent.write start).writeExpr c).write ")" = p.indent.write (start ++ c.text ++ ")") := by
  rw [writeExpr_eq, write_write, write_write, String.append_assoc]

mutual

theorem writeInner_eq : (s : Stmt) → (p : Printer) → p.writeInner s = p.writeLines s.bodyLines
  | .block body, p => by rw [writeInner, Stmt.bodyLines, writeStmts_eq body]
  | .ifThen ⟨c, _⟩ ⟨t, _⟩, p => by
      rw [writeInner, condition_eq, Stmt.bodyLines, writeBody_endLine (writeInner_eq t)]
  | .ifElse ⟨c, _⟩ ⟨t, _⟩ ⟨e, _⟩, p => by
      rw [writeInner, condition_eq, Stmt.bodyLines, writeBody_else (writeInner_eq t),
        writeBody_endLine (writeInner_eq e), writeLines_writeLines, List.append_assoc]
  | .loop ⟨c, _⟩ ⟨body, _⟩, p => by
      rw [writeInner, condition_eq, Stmt.bodyLines, writeBody_endLine (writeInner_eq body)]
  | .print value, p => by
      rw [writeInner, Stmt.bodyLines, ← indent_line, writeExpr_eq]
      simp only [write_write, String.append_assoc]
      rfl
  | .assign target value, p => by
      rw [writeInner, Stmt.bodyLines, ← indent_line, writeExpr_eq]
      simp only [write_write, String.append_assoc]
      rfl
  | .arrayAssign target index value, p => by
      rw [writeInner, Stmt.bodyLines, ← indent_line, writeExpr_eq, writeExpr_eq]
      simp only [write_write, String.append_assoc]
      rfl
  | .varDecl decl, p => by rw [writeInner, Stmt.bodyLines, writeVarDecl_eq]

theorem writeStmts_eq : (ss : List (Located Stmt)) → (p : Printer) →
    p.writeStmts ss = p.writeLines (Stmt.linesList ss)
  | [], p => p.writeLines_nil.symm
  | ⟨s, _⟩ :: ss, p => by
      rw [writeStmts, standing_eq (writeInner_eq s), writeStmts_eq ss, writeLines_writeLines,
        Stmt.linesList]

end

theorem writeMethodBody_eq (m : MethodDecl) (p : Printer) :
    p.writeMethodBody m = p.writeLines
      (Stmt.linesList m.body ++ [.code 0 ("return " ++ m.returnExpr.node.text ++ ";")]) := by
  rw [writeMethodBody, writeStmts_eq, ← writeLines_writeLines, ← indent_line, writeExpr_eq]
  simp only [write_write, String.append_assoc]
  rfl

theorem writeMethod_eq (m : MethodDecl) (p : Printer) : p.writeMethod m = p.writeLines m.lines := by
  rw [MethodDecl.lines, ← braces_eq (writeMethodBody_eq m), writeMethod,
    separated_map fun f q => q.writeFormal_eq f.node]
  simp only [MethodDecl.header, write_write, String.append_assoc]
  rfl

theorem writeMethods_eq (ms : List (Located MethodDecl)) (atTop : Bool) (p : Printer) :
    p.writeMethods atTop ms = p.writeLines (ClassDecl.methodLines atTop ms) := by
  induction ms generalizing atTop p with
  | nil => exact p.writeLines_nil.symm
  | cons m ms ih =>
      rw [writeMethods, ih, writeMethod_eq, ClassDecl.methodLines]
      cases atTop with
      | true => rw [if_pos rfl, if_pos rfl, writeLines_writeLines, List.nil_append]
      | false => simp [write_newline]

theorem writeFields_eq (ds : List (Located VarDecl)) (p : Printer) :
    ds.foldl (fun q d => q.writeVarDecl d.node) p =
      p.writeLines (ds.map fun d => .code 0 d.node.text) := by
  induction ds generalizing p with
  | nil => exact p.writeLines_nil.symm
  | cons d ds ih => rw [List.foldl_cons, ih, writeVarDecl_eq, writeLines_writeLines]; rfl

theorem writeMembers_eq (c : ClassDecl) (p : Printer) :
    p.writeMembers c = p.writeLines
      (c.fields.map (fun d => .code 0 d.node.text) ++
        ClassDecl.methodLines c.fields.isEmpty c.methods) := by
  rw [writeMembers, writeFields_eq, writeMethods_eq, writeLines_writeLines]

theorem writeClass_eq (c : ClassDecl) (p : Printer) : p.writeClass c = p.writeLines c.lines := by
  rw [ClassDecl.lines, ← braces_eq (writeMembers_eq c), writeClass, ClassDecl.header]
  cases c.parent <;> simp only [write_write, String.append_assoc]

theorem writeStmt_eq (s : Stmt) (p : Printer) : p.writeStmt s = p.writeLines s.lines :=
  standing_eq (writeInner_eq s) s.isBlock p

theorem writeMainMethod_eq (c : MainClass) (p : Printer) :
    p.writeMainMethod c = p.writeLines
      (braces ("public static void main(String[] " ++ c.args.node ++ ")") c.body.node.lines) := by
  rw [← braces_eq (writeStmt_eq c.body.node), writeMainMethod]
  simp only [write_write, String.append_assoc]
  rfl

theorem writeMainClass_eq (c : MainClass) (p : Printer) :
    p.writeMainClass c = p.writeLines c.lines := by
  rw [MainClass.lines, ← braces_eq (writeMainMethod_eq c), writeMainClass]
  simp only [write_write, String.append_assoc]

theorem writeClasses_eq (cs : List (Located ClassDecl)) (p : Printer) :
    cs.foldl (fun p c => (p.write "\n").writeClass c.node) p =
      p.writeLines (cs.flatMap fun c => .blank :: c.node.lines) := by
  induction cs generalizing p with
  | nil => exact p.writeLines_nil.symm
  | cons c cs ih =>
      rw [List.foldl_cons, ih, writeClass_eq, write_newline, writeLines_writeLines,
        writeLines_writeLines]
      rfl

/-- The steps of a node do what a visit does, whatever was printed before and at whatever level. -/
theorem writeNode_eq_visit (p : Printer) (n : Node) : p.writeNode n = p.visit n := by
  cases n with
  | program program =>
      rw [writeNode, writeProgram, writeMainClass_eq, writeClasses_eq, writeLines_writeLines]
      rfl
  | mainClass c => exact writeMainClass_eq c.node p
  | classDecl c => exact writeClass_eq c.node p
  | varDecl d => exact writeVarDecl_eq d.node p
  | methodDecl m => exact writeMethod_eq m.node p
  | formal f => exact writeFormal_eq f.node p
  | ty t => rfl
  | stmt s => exact writeStmt_eq s.node p
  | expr e => exact writeExpr_eq e.node p
  | ident i => rfl

end Printer

end MiniJava
