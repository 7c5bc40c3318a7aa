import MiniJava.Layout.Stmt
import MiniJava.Proofs.Grammar.ExprText
import MiniJava.Proofs.Grammar.Lines
import MiniJava.Proofs.Grammar.Stmt
import MiniJava.Proofs.Syntax.Norm

/-!
The lines of a printed statement stand for tokens that derive the statement, with the braces that
printing adds.
-/
namespace MiniJava

open Token

abbrev IsProgramName (word : String) : Prop := isName Keyword.ofProgram word = true

abbrev Lines.programTokens (ls : List Line) : List Token := Lines.tokens Keyword.ofProgram ls

theorem Keyword.ofExpr_subset : Keyword.ofExpr ⊆ Keyword.ofProgram := by decide

theorem Keyword.mem_ofProgram (k : Keyword) : k ∈ Keyword.ofProgram := by
  cases k <;> decide

/-! ## Declarations -/

theorem Ty.text_writes (t : Ty) (h : t.AllNames IsProgramName) :
    Writes Keyword.ofProgram t.text t.tokens := by
  cases t with
  | intArray =>
      intro rest _
      exact (scan_intWord Keyword.ofExpr_subset _).trans
        (congrArg (fun ts => _ :: _ :: ts) (scan_symbol ']' rfl rest))
  | boolean => exact writes_keyword .boolean (Keyword.mem_ofProgram _)
  | integer => exact writes_keyword .int (Keyword.mem_ofProgram _)
  | named name => exact writes_name h

theorem VarDecl.scan_text (d : VarDecl) (h : d.AllNames IsProgramName) :
    scan Keyword.ofProgram d.text.toList = d.tokens := by
  have hnames := writes_commaSeparated (fun id : Ident => id.node) (fun id => [.name id.node])
    d.idents fun id hid => writes_name (h.2 id hid)
  simp only [VarDecl.text, VarDecl.tokens, VarDecl.names, String.toList_append,
    String.reduceToList, List.append_assoc, List.cons_append, List.nil_append]
  rw [d.ty.node.text_writes h.1 _ (ends_cons.mpr rfl), scan_space, hnames.before ';' rfl, scan_nil]

/-! ## Braces -/

/-- The tokens, in braces where there are to be braces. -/
def braced (isBraced : Bool) (ts : List Token) : List Token :=
  if isBraced then .symbol .leftBrace :: (ts ++ [.symbol .rightBrace]) else ts

theorem scan_header (header : String) (isBraced : Bool) :
    scan Keyword.ofProgram (if isBraced then header ++ " \x7b" else header).toList =
      scan Keyword.ofProgram header.toList ++ if isBraced then [.symbol .leftBrace] else [] := by
  cases isBraced with
  | false => simp
  | true =>
      have htext : (header ++ " \x7b").toList = header.toList ++ ' ' :: ['\x7b'] := by simp
      simp only [if_true, htext]
      rw [scan_append_blank rfl, scan_symbol '\x7b' rfl, scan_nil]

theorem tokens_closing (isBraced : Bool) :
    Lines.programTokens (closing isBraced) = if isBraced then [.symbol .rightBrace] else [] := by
  cases isBraced with
  | false => rfl
  | true =>
      show scan Keyword.ofProgram ['\x7d'] ++ [] = _
      rw [scan_symbol '\x7d' rfl, scan_nil]
      rfl

/-- A header and the body under it. -/
theorem tokens_clause (header : String) (isBraced : Bool) (body : List Line) :
    Lines.programTokens (clause header isBraced body ++ closing isBraced) =
      scan Keyword.ofProgram header.toList ++ braced isBraced (Lines.programTokens body) := by
  simp only [clause, Lines.tokens_append, Lines.tokens_cons, Lines.tokens_nest, Line.tokens,
    scan_header, tokens_closing]
  cases isBraced <;> simp [braced]

/-- A braced or unbraced body, and the `else` after it. -/
theorem tokens_else (header : String) (isBraced isBraced' : Bool) (body body' : List Line) :
    Lines.programTokens
        (clause header isBraced body ++
          clause (if isBraced then "\x7d else" else "else") isBraced' body' ++
            closing isBraced') =
      scan Keyword.ofProgram header.toList ++ (braced isBraced (Lines.programTokens body) ++
        .keyword .else :: braced isBraced' (Lines.programTokens body')) := by
  have helse : scan Keyword.ofProgram (if isBraced then "\x7d else" else "else").toList =
      (if isBraced then [.symbol .rightBrace] else []) ++ [.keyword .else] := by
    have hword := (writes_keyword .else (Keyword.mem_ofProgram _)).scan_eq
    cases isBraced with
    | false => exact hword
    | true => exact (scan_symbol '\x7d' rfl _).trans (congrArg _ ((scan_space _).trans hword))
  simp only [clause, Lines.tokens_append, Lines.tokens_cons, Lines.tokens_nest, Line.tokens,
    scan_header, tokens_closing, helse]
  cases isBraced <;> cases isBraced' <;> simp [braced]

theorem tokens_standing (isBlock : Bool) (body : List Line) :
    Lines.programTokens (standing isBlock body) = braced isBlock (Lines.programTokens body) := by
  cases isBlock with
  | false => rfl
  | true =>
      simp only [standing, if_true, clause, Lines.tokens_append, Lines.tokens_cons,
        Lines.tokens_nest, tokens_closing]
      show scan Keyword.ofProgram ['\x7b'] ++ _ ++ _ = _
      rw [scan_symbol '\x7b' rfl, scan_nil]
      rfl

/-! ## Statements -/

namespace Expr

theorem writes_program {e : Expr} (h : e.AllNames IsProgramName) :
    Writes Keyword.ofProgram e.text e.tokens := text_writes Keyword.ofExpr_subset e h

end Expr

namespace Stmt

variable {c : Expr}

/-- `if (c)` and `while (c)` -/
theorem scan_condition (k : Keyword) (start : String) (hstart : start = k.text ++ " (")
    (h : c.AllNames IsProgramName) :
    scan Keyword.ofProgram (start ++ c.text ++ ")").toList =
      .keyword k :: .symbol .leftParen :: (c.tokens ++ [.symbol .rightParen]) := by
  subst hstart
  simp only [String.toList_append, String.reduceToList, List.append_assoc, List.cons_append,
    List.nil_append]
  rw [scan_keyword k (Keyword.mem_ofProgram _) (ends_cons.mpr rfl), scan_space,
    scan_symbol '(' rfl, (Expr.writes_program h).before ')' rfl, scan_nil]

theorem scan_print {value : Expr} (h : value.AllNames IsProgramName) :
    scan Keyword.ofProgram ("System.out.println(" ++ value.text ++ ");").toList =
      printHead ++ (value.tokens ++ [.symbol .rightParen, .symbol .semicolon]) := by
  have htext : ("System.out.println(" ++ value.text ++ ");").toList =
      Keyword.system.text.toList ++ '.' :: ("out".toList ++ '.' :: ("println".toList ++ '(' ::
        (value.text.toList ++ [')', ';']))) := by simp [Keyword.text]
  have hout : IsProgramName "out" := by decide
  have hprintln : IsProgramName "println" := by decide
  rw [htext, scan_keyword .system (Keyword.mem_ofProgram _) (ends_cons.mpr rfl),
    scan_symbol '.' rfl, scan_name hout (ends_cons.mpr rfl), scan_symbol '.' rfl,
    scan_name hprintln (ends_cons.mpr rfl), scan_symbol '(' rfl,
    (Expr.writes_program h).before ')' rfl, scan_symbol ';' rfl, scan_nil]
  rfl

theorem scan_assign {target : String} {value : Expr} (ht : IsProgramName target)
    (h : value.AllNames IsProgramName) :
    scan Keyword.ofProgram (target ++ " = " ++ value.text ++ ";").toList =
      .name target :: .symbol .assign :: (value.tokens ++ [.symbol .semicolon]) := by
  simp only [String.toList_append, String.reduceToList, List.append_assoc, List.cons_append,
    List.nil_append]
  rw [scan_name ht (ends_cons.mpr rfl), scan_space, scan_symbol '=' rfl, scan_space,
    (Expr.writes_program h).before ';' rfl, scan_nil]

theorem scan_arrayAssign {target : String} {index value : Expr} (ht : IsProgramName target)
    (hi : index.AllNames IsProgramName) (hv : value.AllNames IsProgramName) :
    scan Keyword.ofProgram (target ++ "[" ++ index.text ++ "] = " ++ value.text ++ ";").toList =
      .name target :: .symbol .leftBracket :: (index.tokens ++ .symbol .rightBracket ::
        .symbol .assign :: (value.tokens ++ [.symbol .semicolon])) := by
  simp only [String.toList_append, String.reduceToList, List.append_assoc, List.cons_append,
    List.nil_append]
  rw [scan_name ht (ends_cons.mpr rfl), scan_symbol '[' rfl,
    (Expr.writes_program hi).before ']' rfl, scan_space,
    scan_symbol '=' rfl, scan_space, (Expr.writes_program hv).before ';' rfl, scan_nil]

theorem tokens_lines (s : Stmt) :
    Lines.programTokens s.lines = braced s.isBlock (Lines.programTokens s.bodyLines) :=
  tokens_standing _ _

/-- A branch before an `else` does not take the `else`: it is in braces if it would. -/
theorem branch_derive {t : Stmt} (span : Span)
    (h : Derives t.endsInOpenIf (Lines.programTokens t.lines) t.norm) :
    Derives false (braced (t.isBlock || t.endsInOpenIf) (Lines.programTokens t.bodyLines))
      (if t.endsInOpenIf then Located.inBlock ⟨t.norm, span⟩ else ⟨t.norm, span⟩).node := by
  rw [tokens_lines] at h
  cases hopen : t.endsInOpenIf with
  | false =>
      rw [hopen] at h
      rw [Bool.or_false]
      exact h
  | true =>
      -- No block ends in an open `if`, so the braces are added ones.
      have hblock : t.isBlock = false := by
        cases t <;> first | rfl | cases hopen
      rw [hopen, hblock] at h
      have hbody : DerivesList _ [⟨t.norm, span⟩] := .cons h .nil
      rw [List.append_nil] at hbody
      rw [Bool.or_true]
      exact .block hbody

mutual

/-- A printed statement is read as the statement with the braces that printing adds. -/
theorem lines_derive : (s : Stmt) → s.AllNames IsProgramName →
    Derives s.endsInOpenIf (Lines.programTokens s.lines) s.norm
  | .block body, h => by
      rw [tokens_lines]
      exact .block (linesList_derive body h)
  | .ifThen ⟨c, _⟩ ⟨t, _⟩, h => by
      have hc : c.AllNames IsProgramName := h.1
      have hthen := lines_derive t h.2
      rw [tokens_lines] at hthen
      show Derives true (Lines.programTokens (clause _ _ _ ++ closing _)) _
      rw [tokens_clause, scan_condition .if "if (" rfl hc]
      simp only [List.cons_append, List.append_assoc, List.nil_append]
      exact .ifThen c.tokens_derive.loosest hthen
  | .ifElse ⟨c, _⟩ ⟨t, s⟩ ⟨e, _⟩, h => by
      have hc : c.AllNames IsProgramName := h.1
      have hthen := branch_derive s (lines_derive t h.2.1)
      have helse := lines_derive e h.2.2
      rw [tokens_lines] at helse
      show Derives e.endsInOpenIf
        (Lines.programTokens (clause _ _ _ ++ clause _ _ _ ++ closing _)) _
      rw [tokens_else, scan_condition .if "if (" rfl hc]
      simp only [List.cons_append, List.append_assoc, List.nil_append]
      exact .ifElse c.tokens_derive.loosest hthen helse
  | .loop ⟨c, _⟩ ⟨body, _⟩, h => by
      have hc : c.AllNames IsProgramName := h.1
      have hbody := lines_derive body h.2
      rw [tokens_lines] at hbody
      show Derives body.endsInOpenIf (Lines.programTokens (clause _ _ _ ++ closing _)) _
      rw [tokens_clause, scan_condition .while "while (" rfl hc]
      simp only [List.cons_append, List.append_assoc, List.nil_append]
      exact .loop c.tokens_derive.loosest hbody
  | .print value, h => by
      show Derives false (scan Keyword.ofProgram _ ++ []) _
      rw [scan_print h, List.append_nil]
      exact .print value.node.tokens_derive.loosest
  | .assign target value, h => by
      show Derives false (scan Keyword.ofProgram _ ++ []) _
      rw [scan_assign h.1 h.2, List.append_nil]
      exact .assign target value.node.tokens_derive.loosest
  | .arrayAssign target index value, h => by
      show Derives false (scan Keyword.ofProgram _ ++ []) _
      rw [scan_arrayAssign h.1 h.2.1 h.2.2, List.append_nil]
      exact .arrayAssign target index.node.tokens_derive.loosest value.node.tokens_derive.loosest
  | .varDecl d, h => by
      show Derives false (scan Keyword.ofProgram _ ++ []) _
      rw [d.scan_text h, List.append_nil]
      exact .varDecl d

theorem linesList_derive : (ss : List (Located Stmt)) → AllNamesList IsProgramName ss →
    DerivesList (Lines.programTokens (linesList ss)) (normList ss)
  | [], _ => .nil
  | ⟨s, _⟩ :: ss, h => by
      have hs := lines_derive s h.1
      simp only [linesList, Lines.tokens_append]
      exact .cons hs (linesList_derive ss h.2)

end

end Stmt

end MiniJava
