import MiniJava.Layout.Printer
import MiniJava.Proofs.Grammar.ProgramParser
import MiniJava.Proofs.Grammar.StmtText

/-!
A printed method, class or program is parsed back, with the braces that printing adds, and so is a
printed node of any kind.
-/
namespace MiniJava

open Token

variable {reserved : List Keyword}

/-! ## Headers -/

theorem Formal.text_writes (f : Formal) (h : f.AllNames IsProgramName) :
    Writes Keyword.ofProgram f.text f.tokens := by
  intro rest hrest
  simp only [Formal.text, Formal.tokens, String.toList_append, String.reduceToList,
    List.append_assoc, List.cons_append, List.nil_append]
  rw [f.ty.node.text_writes h.1 _ (ends_cons.mpr rfl), scan_space, scan_name h.2 hrest]

theorem scan_spaced (k : Keyword) (rest : List Char) :
    scan Keyword.ofProgram (k.text.toList ++ ' ' :: rest) =
      .keyword k :: scan Keyword.ofProgram rest := by
  rw [scan_keyword k (Keyword.mem_ofProgram k) (ends_cons.mpr rfl), scan_space]

theorem MethodDecl.scan_header (m : MethodDecl) (h : m.AllNames IsProgramName) :
    scan Keyword.ofProgram m.header.toList ++ [.symbol .leftBrace] =
      .keyword .public :: m.headTokens := by
  have hformals := writes_commaSeparated (fun f : Located Formal => f.node.text)
    (fun f => f.node.tokens) m.formals fun f hf => f.node.text_writes (h.formals f hf)
  have htext : m.header.toList = Keyword.public.text.toList ++ ' ' ::
      (m.returnType.node.text.toList ++ ' ' :: (m.name.node.toList ++ '(' ::
        ((commaSeparated (m.formals.map (·.node.text))).toList ++ [')']))) := by
    simp [MethodDecl.header, Keyword.text]
  rw [htext, scan_spaced, m.returnType.node.text_writes h.returnType _ (ends_cons.mpr rfl),
    scan_space, scan_name h.name (ends_cons.mpr rfl), scan_symbol '(' rfl,
    hformals.before ')' rfl, scan_nil]
  simp [MethodDecl.headTokens]

theorem scan_className {name : String} (h : IsProgramName name) :
    scan Keyword.ofProgram ("class " ++ name).toList = [.keyword .class, .name name] := by
  have htext : ("class " ++ name).toList = Keyword.class.text.toList ++ ' ' :: name.toList := by
    simp [Keyword.text]
  rw [htext, scan_spaced, (writes_name h).scan_eq]

theorem ClassDecl.scan_header (c : ClassDecl) (h : c.AllNames IsProgramName) :
    scan Keyword.ofProgram c.header.toList ++ [.symbol .leftBrace] =
      .keyword .class :: c.headTokens := by
  obtain ⟨name, parent?, fields, methods⟩ := c
  cases parent? with
  | none =>
      show scan Keyword.ofProgram ("class " ++ name.node).toList ++ _ = _
      rw [scan_className h.name]
      rfl
  | some parent =>
      have htext : ("class " ++ name.node ++ " extends " ++ parent.node).toList =
          ("class " ++ name.node).toList ++ ' ' :: (Keyword.extends.text.toList ++ ' ' ::
            parent.node.toList) := by
        simp [Keyword.text]
      show scan Keyword.ofProgram
        ("class " ++ name.node ++ " extends " ++ parent.node).toList ++ _ = _
      rw [htext, scan_append_blank rfl, scan_className h.name, scan_spaced,
        (writes_name (h.parent parent rfl)).scan_eq]
      rfl

/-- `public static void main(String[] args)` -/
theorem MainClass.scan_mainHeader {args : String} (h : IsProgramName args) :
    scan Keyword.ofProgram ("public static void main(String[] " ++ args ++ ")").toList =
      mainHead ++ [.name args, .symbol .rightParen] := by
  have htext : ("public static void main(String[] " ++ args ++ ")").toList =
      Keyword.public.text.toList ++ ' ' :: (Keyword.static.text.toList ++ ' ' ::
        (Keyword.void.text.toList ++ ' ' :: (Keyword.main.text.toList ++ '(' ::
          (Keyword.string.text.toList ++ '[' :: ']' :: ' ' :: (args.toList ++ [')']))))) := by
    simp [Keyword.text]
  rw [htext, scan_spaced, scan_spaced, scan_spaced,
    scan_keyword .main (Keyword.mem_ofProgram _) (ends_cons.mpr rfl), scan_symbol '(' rfl,
    scan_keyword .string (Keyword.mem_ofProgram _) (ends_cons.mpr rfl), scan_symbol '[' rfl,
    scan_symbol ']' rfl, scan_space, scan_name h (ends_cons.mpr rfl), scan_symbol ')' rfl, scan_nil]
  rfl

/-! ## Methods, classes and programs -/

theorem tokens_braces (header : String) (body : List Line) :
    Lines.programTokens (braces header body) =
      (scan Keyword.ofProgram header.toList ++ [.symbol .leftBrace]) ++
        (Lines.programTokens body ++ [.symbol .rightBrace]) := by
  rw [braces, tokens_clause]
  simp [braced]

theorem scan_return {e : Expr} (h : e.AllNames IsProgramName) :
    scan Keyword.ofProgram ("return " ++ e.text ++ ";").toList =
      .keyword .return :: (e.tokens ++ [.symbol .semicolon]) := by
  have htext : ("return " ++ e.text ++ ";").toList =
      Keyword.return.text.toList ++ ' ' :: (e.text.toList ++ [';']) := by simp [Keyword.text]
  rw [htext, scan_spaced, (Expr.writes_program h).before ';' rfl,
    scan_nil]

theorem MethodDecl.lines_derive (m : MethodDecl) (h : m.AllNames IsProgramName) :
    m.norm.Derives (Lines.programTokens m.lines) := by
  have hbody := Stmt.linesList_derive m.body h.body
  have hderives := MethodDecl.Derives.intro (m := m.norm) hbody
    m.returnExpr.node.tokens_derive.loosest
  rw [MethodDecl.lines, tokens_braces, m.scan_header h]
  simp only [Lines.tokens_append, Lines.tokens_cons, Lines.tokens_nil, Line.tokens,
    scan_return h.returnExpr, List.append_nil, List.append_assoc, List.cons_append,
    List.nil_append] at hderives ⊢
  exact hderives

theorem ClassDecl.tokens_fields (ds : List (Located VarDecl)) :
    Lines.programTokens (ds.map fun d => .code 0 d.node.text) =
      ds.flatMap fun d => scan Keyword.ofProgram d.node.text.toList :=
  List.flatMap_map ..

theorem ClassDecl.tokens_methodLines (atTop : Bool) : (ms : List (Located MethodDecl)) →
    Lines.programTokens (ClassDecl.methodLines atTop ms) =
      ms.flatMap fun m => Lines.programTokens m.node.lines
  | [] => rfl
  | m :: ms => by
      have htail := tokens_methodLines false ms
      cases atTop <;> simp [ClassDecl.methodLines, Line.tokens, htail]

theorem ClassDecl.lines_derive (c : ClassDecl) (h : c.AllNames IsProgramName) :
    c.norm.Derives (Lines.programTokens c.lines) := by
  have hfields := Sequence.flatMap (fun ts d => ts = d.tokens) _ id c.fields
    fun d hd => d.node.scan_text (h.fields d hd)
  have hmethods := Sequence.flatMap _ _ (·.map MethodDecl.norm) c.methods
    fun m hm => m.node.lines_derive (h.methods m hm)
  rw [List.map_id, ← ClassDecl.tokens_fields] at hfields
  rw [← ClassDecl.tokens_methodLines c.fields.isEmpty] at hmethods
  have hderives := ClassDecl.Derives.intro (c := c.norm) hfields hmethods
  rw [ClassDecl.lines, tokens_braces, c.scan_header h]
  simp only [Lines.tokens_append, List.append_assoc, List.cons_append] at hderives ⊢
  exact hderives

theorem MainClass.lines_derive (c : MainClass) (h : c.AllNames IsProgramName) :
    c.norm.Derives (Lines.programTokens c.lines) := by
  have hbody := c.body.node.lines_derive h.body
  have hderives := MainClass.Derives.intro (c := c.norm) hbody
  rw [MainClass.lines, tokens_braces, tokens_braces, scan_className h.name,
    MainClass.scan_mainHeader h.args]
  simp only [List.append_assoc, List.cons_append, List.nil_append] at hderives ⊢
  exact hderives

theorem Program.lines_derive (p : Program) (h : p.AllNames IsProgramName) :
    p.norm.Derives (Lines.programTokens p.lines) := by
  have hmain := p.mainClass.node.lines_derive h.mainClass
  have hclasses := Sequence.flatMap _ _ (·.map ClassDecl.norm) p.classes
    fun c hc => c.node.lines_derive (h.classes c hc)
  have htokens : Lines.programTokens p.lines = Lines.programTokens p.mainClass.node.lines ++
      p.classes.flatMap fun c => Lines.programTokens c.node.lines := by
    simp [Program.lines, Lines.tokens, List.flatMap_assoc, Line.tokens]
  rw [htokens]
  exact .intro hmain hclasses

namespace Node

/-- The tokens of a printed node derive the node, with the braces that printing adds. -/
theorem text_derives (n : Node) (config : Config) (h : n.AllNames IsProgramName) :
    n.norm.Derives (scan Keyword.ofProgram (n.text config).toList) := by
  have htext : n.text config = n.layout.text config.indentWidth 0 := String.empty_append
  rw [htext]
  cases n with
  | program p =>
      rw [layout, Layout.text, Lines.scan_text]
      exact p.node.lines_derive h
  | mainClass c =>
      rw [layout, Layout.text, Lines.scan_text]
      exact c.node.lines_derive h
  | classDecl c =>
      rw [layout, Layout.text, Lines.scan_text]
      exact c.node.lines_derive h
  | varDecl d =>
      rw [layout, Layout.text, Lines.scan_text, Lines.tokens_cons, Lines.tokens_nil,
        List.append_nil]
      exact d.node.scan_text h
  | methodDecl m =>
      rw [layout, Layout.text, Lines.scan_text]
      exact m.node.lines_derive h
  | formal f => exact (f.node.text_writes h).scan_eq
  | ty t => exact (t.node.text_writes h).scan_eq
  | stmt s =>
      rw [layout, Layout.text, Lines.scan_text]
      exact ⟨_, s.node.lines_derive h⟩
  | expr e =>
      rw [layout, Layout.text, (Expr.writes_program h).scan_eq]
      exact e.node.tokens_derive.loosest
  | ident i => exact (writes_name h).scan_eq

/-- A printed node is read as the node with the braces that printing adds, up to spans, and the
grammar allows no other reading of it. -/
theorem text_parses_to_norm (n : Node) (config : Config) (h : n.AllNames IsProgramName) :
    let ts := scan Keyword.ofProgram (n.text config).toList
    Parse.node n.kind ts = some n.norm.erase ∧ n.norm.Derives ts ∧
      ∀ n' : Node, n'.kind = n.kind → n'.Derives ts → n'.SameButSpans n.norm := by
  have hkind : n.norm.kind = n.kind := by cases n <;> rfl
  have hderives := n.text_derives config h
  refine ⟨?_, hderives, ?_⟩
  · rw [← hkind]
    exact Parse.node_eq hderives
  · intro n' hn' hderives'
    exact hderives.unique hderives' (hn'.trans hkind.symm)

/-- `if (a) { while (b) if (c) System.out.println(1); } else System.out.println(2);`, where the
braces are added: without them the `else` would go to the inner `if`. -/
theorem text_parses_to_norm_dangling :
    let one : Stmt := .print (.nowhere (.int 1))
    let two : Stmt := .print (.nowhere (.int 2))
    let inner : Stmt := .loop (.nowhere (.var "b"))
      (.nowhere (.ifThen (.nowhere (.var "c")) (.nowhere one)))
    let n : Node := .stmt (.nowhere (.ifElse (.nowhere (.var "a")) (.nowhere inner) (.nowhere two)))
    n.AllNames IsProgramName ∧
      Parse.node .stmt (scan Keyword.ofProgram (n.text { indentWidth := 0 }).toList) =
        some (.stmt (.nowhere (.ifElse (.nowhere (.var "a"))
          (.nowhere (.block [.nowhere inner])) (.nowhere two)))) := by
  intro one two inner n
  have ha : IsProgramName "a" := by decide
  have hb : IsProgramName "b" := by decide
  have hc : IsProgramName "c" := by decide
  have hnames : n.AllNames IsProgramName := ⟨ha, ⟨hb, hc, trivial⟩, trivial⟩
  exact ⟨hnames, (text_parses_to_norm n { indentWidth := 0 } hnames).1⟩

end Node

end MiniJava
