import MiniJava.Layout.Printer
import MiniJava.Proofs.Syntax.Spans

/-!
Source text does not depend on spans: a tree is written alike whatever its spans are changed to.
-/
namespace MiniJava

variable (g : Span → Span)

namespace Expr

theorem precedence_mapSpans (e : Expr) : (e.mapSpans g).precedence = e.precedence := by
  cases e <;> rfl

mutual

theorem text_mapSpans : (e : Expr) → (e.mapSpans g).text = e.text
  | .binary _ ⟨l, _⟩ ⟨r, _⟩ => by
      simp only [mapSpans, text, precedence_mapSpans, text_mapSpans l, text_mapSpans r]
  | .lookup ⟨a, _⟩ ⟨i, _⟩ => by
      simp only [mapSpans, text, precedence_mapSpans, text_mapSpans a, text_mapSpans i]
  | .length ⟨a, _⟩ => by simp only [mapSpans, text, precedence_mapSpans, text_mapSpans a]
  | .call ⟨r, _⟩ _ args => by
      simp only [mapSpans, text, precedence_mapSpans, text_mapSpans r, texts_mapSpans args,
        Located.respan]
  | .newArray ⟨n, _⟩ => by simp only [mapSpans, text, text_mapSpans n]
  | .newObject _ => rfl
  | .not ⟨e, _⟩ => by simp only [mapSpans, text, precedence_mapSpans, text_mapSpans e]
  | .int _ => rfl
  | .bool _ => rfl
  | .var _ => rfl
  | .this => rfl

theorem texts_mapSpans : (es : List (Located Expr)) → texts (mapSpansList g es) = texts es
  | [] => rfl
  | ⟨e, _⟩ :: es => by rw [mapSpansList, texts, texts, text_mapSpans e, texts_mapSpans es]

end

end Expr

namespace VarDecl

theorem idents_mapSpans (d : VarDecl) : (d.mapSpans g).idents = d.idents.map (·.respan g) := rfl

theorem names_mapSpans (d : VarDecl) : (d.mapSpans g).names = d.names := by
  rw [names, names, idents_mapSpans, List.map_map]
  rfl

theorem text_mapSpans (d : VarDecl) : (d.mapSpans g).text = d.text := by
  rw [text, text, names_mapSpans]
  rfl

end VarDecl

namespace Stmt

theorem isBlock_mapSpans (s : Stmt) : (s.mapSpans g).isBlock = s.isBlock := by
  cases s <;> rfl

theorem endsInOpenIf_mapSpans : (s : Stmt) → (s.mapSpans g).endsInOpenIf = s.endsInOpenIf
  | .ifElse _ ⟨_, _⟩ ⟨e, _⟩ => by
      rw [mapSpans, endsInOpenIf, endsInOpenIf, endsInOpenIf_mapSpans e]
  | .loop _ ⟨body, _⟩ => by rw [mapSpans, endsInOpenIf, endsInOpenIf, endsInOpenIf_mapSpans body]
  | .ifThen _ ⟨_, _⟩ => rfl
  | .block _ => rfl
  | .print _ => rfl
  | .assign _ _ => rfl
  | .arrayAssign _ _ _ => rfl
  | .varDecl _ => rfl

mutual

theorem bodyLines_mapSpans : (s : Stmt) → (s.mapSpans g).bodyLines = s.bodyLines
  | .block body => by rw [mapSpans, bodyLines, bodyLines, linesList_mapSpans body]
  | .ifThen _ ⟨t, _⟩ => by
      simp only [mapSpans, Located.mapSpans, bodyLines, Expr.text_mapSpans, isBlock_mapSpans,
        bodyLines_mapSpans t]
  | .ifElse _ ⟨t, _⟩ ⟨e, _⟩ => by
      simp only [mapSpans, Located.mapSpans, bodyLines, Expr.text_mapSpans, isBlock_mapSpans,
        endsInOpenIf_mapSpans, bodyLines_mapSpans t, bodyLines_mapSpans e]
  | .loop _ ⟨body, _⟩ => by
      simp only [mapSpans, Located.mapSpans, bodyLines, Expr.text_mapSpans, isBlock_mapSpans,
        bodyLines_mapSpans body]
  | .print _ => by simp only [mapSpans, Located.mapSpans, bodyLines, Expr.text_mapSpans]
  | .assign _ _ => by
      simp only [mapSpans, Located.mapSpans, Located.respan, bodyLines, Expr.text_mapSpans]
  | .arrayAssign _ _ _ => by
      simp only [mapSpans, Located.mapSpans, Located.respan, bodyLines, Expr.text_mapSpans]
  | .varDecl _ => by rw [mapSpans, bodyLines, bodyLines, VarDecl.text_mapSpans]

theorem linesList_mapSpans : (ss : List (Located Stmt)) →
    linesList (mapSpansList g ss) = linesList ss
  | [] => rfl
  | ⟨s, _⟩ :: ss => by
      rw [mapSpansList, linesList, linesList, isBlock_mapSpans, bodyLines_mapSpans s,
        linesList_mapSpans ss]

end

theorem lines_mapSpans (s : Stmt) : (s.mapSpans g).lines = s.lines := by
  rw [lines, lines, isBlock_mapSpans, bodyLines_mapSpans]

end Stmt

theorem Formal.text_mapSpans (f : Formal) : (f.mapSpans g).text = f.text := rfl

namespace MethodDecl

theorem header_mapSpans (m : MethodDecl) : (m.mapSpans g).header = m.header := by
  rw [header, header, mapSpans, List.map_map]
  rfl

theorem lines_mapSpans (m : MethodDecl) : (m.mapSpans g).lines = m.lines := by
  rw [lines, lines, header_mapSpans, mapSpans]
  simp only [Located.mapSpans, Stmt.linesList_mapSpans, Expr.text_mapSpans]

end MethodDecl

namespace ClassDecl

theorem header_mapSpans (c : ClassDecl) : (c.mapSpans g).header = c.header := by
  obtain ⟨name, parent, fields, methods⟩ := c
  cases parent <;> rfl

theorem methodLines_mapSpans (atTop : Bool) (ms : List (Located MethodDecl)) :
    methodLines atTop (ms.map (·.mapSpans MethodDecl.mapSpans g)) = methodLines atTop ms := by
  induction ms generalizing atTop with
  | nil => rfl
  | cons m ms ih =>
      rw [List.map_cons, methodLines, methodLines, ih, Located.mapSpans, MethodDecl.lines_mapSpans]

theorem lines_mapSpans (c : ClassDecl) : (c.mapSpans g).lines = c.lines := by
  rw [lines, lines, header_mapSpans, mapSpans, methodLines_mapSpans, List.map_map,
    List.isEmpty_map]
  simp only [Function.comp_def, Located.mapSpans, VarDecl.text_mapSpans]

end ClassDecl

theorem MainClass.lines_mapSpans (c : MainClass) : (c.mapSpans g).lines = c.lines := by
  simp only [lines, mapSpans, Located.respan, Located.mapSpans, Stmt.lines_mapSpans]

theorem Program.lines_mapSpans (p : Program) : (p.mapSpans g).lines = p.lines := by
  simp only [lines, mapSpans, Located.mapSpans, MainClass.lines_mapSpans, List.flatMap_map,
    ClassDecl.lines_mapSpans]

theorem Node.layout_mapSpans : (n : Node) → (n.mapSpans g).layout = n.layout
  | .program p => congrArg Layout.lines (p.node.lines_mapSpans g)
  | .mainClass c => congrArg Layout.lines (c.node.lines_mapSpans g)
  | .classDecl c => congrArg Layout.lines (c.node.lines_mapSpans g)
  | .varDecl d => congrArg (fun text => Layout.lines [.code 0 text]) (d.node.text_mapSpans g)
  | .methodDecl m => congrArg Layout.lines (m.node.lines_mapSpans g)
  | .formal f => congrArg Layout.inline (f.node.text_mapSpans g)
  | .ty _ => rfl
  | .stmt s => congrArg Layout.lines (s.node.lines_mapSpans g)
  | .expr e => congrArg Layout.inline (e.node.text_mapSpans g)
  | .ident _ => rfl

theorem Node.text_mapSpans (n : Node) (config : Config) :
    (n.mapSpans g).text config = n.text config := by
  show "" ++ (n.mapSpans g).layout.text config.indentWidth 0 =
    "" ++ n.layout.text config.indentWidth 0
  rw [layout_mapSpans]

end MiniJava
