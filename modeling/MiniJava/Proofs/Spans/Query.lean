import MiniJava.Proofs.Syntax.Spans
import MiniJava.Query
import MiniJava.Tally

/-!
Questions about calls, variables and declarations are answered without regard to spans.
-/
namespace MiniJava

variable (g : Span → Span)

namespace Expr

theorem containsCalls_mapSpans : (e : Expr) → (e.mapSpans g).containsCalls = e.containsCalls
  | .binary _ ⟨l, _⟩ ⟨r, _⟩ => by
      simp only [mapSpans, containsCalls, containsCalls_mapSpans l, containsCalls_mapSpans r]
  | .lookup ⟨a, _⟩ ⟨i, _⟩ => by
      simp only [mapSpans, containsCalls, containsCalls_mapSpans a, containsCalls_mapSpans i]
  | .length ⟨a, _⟩ => by simp only [mapSpans, containsCalls, containsCalls_mapSpans a]
  | .newArray ⟨n, _⟩ => by simp only [mapSpans, containsCalls, containsCalls_mapSpans n]
  | .not ⟨e, _⟩ => by simp only [mapSpans, containsCalls, containsCalls_mapSpans e]
  | .call ⟨_, _⟩ _ _ => by simp only [mapSpans, containsCalls]
  | .newObject _ => by simp only [mapSpans, containsCalls]
  | .int _ => rfl
  | .bool _ => rfl
  | .var _ => rfl
  | .this => rfl

mutual

theorem countCalls_mapSpans : (e : Expr) → (e.mapSpans g).countCalls = e.countCalls
  | .call ⟨r, _⟩ _ args => by
      simp only [mapSpans, countCalls, countCalls_mapSpans r, countCallsList_mapSpans args]
  | .binary _ ⟨l, _⟩ ⟨r, _⟩ => by
      simp only [mapSpans, countCalls, countCalls_mapSpans l, countCalls_mapSpans r]
  | .lookup ⟨a, _⟩ ⟨i, _⟩ => by
      simp only [mapSpans, countCalls, countCalls_mapSpans a, countCalls_mapSpans i]
  | .length ⟨a, _⟩ => by simp only [mapSpans, countCalls, countCalls_mapSpans a]
  | .newArray ⟨n, _⟩ => by simp only [mapSpans, countCalls, countCalls_mapSpans n]
  | .not ⟨e, _⟩ => by simp only [mapSpans, countCalls, countCalls_mapSpans e]
  | .newObject _ => by simp only [mapSpans, countCalls]
  | .int _ => rfl
  | .bool _ => rfl
  | .var _ => rfl
  | .this => rfl

theorem countCallsList_mapSpans : (es : List (Located Expr)) →
    countCallsList (mapSpansList g es) = countCallsList es
  | [] => rfl
  | ⟨e, _⟩ :: es => by
      simp only [mapSpansList, countCallsList, countCalls_mapSpans e, countCallsList_mapSpans es]

end

mutual

theorem gatherVars_mapSpans : (e : Expr) → (seen : List String) →
    (e.mapSpans g).gatherVars seen = e.gatherVars seen
  | .call ⟨r, _⟩ _ args, _ => by
      simp only [mapSpans, gatherVars, gatherVars_mapSpans r, gatherVarsList_mapSpans args]
  | .binary _ ⟨l, _⟩ ⟨r, _⟩, _ => by
      simp only [mapSpans, gatherVars, gatherVars_mapSpans l, gatherVars_mapSpans r]
  | .lookup ⟨a, _⟩ ⟨i, _⟩, _ => by
      simp only [mapSpans, gatherVars, gatherVars_mapSpans a, gatherVars_mapSpans i]
  | .length ⟨a, _⟩, _ => by simp only [mapSpans, gatherVars, gatherVars_mapSpans a]
  | .newArray ⟨n, _⟩, _ => by simp only [mapSpans, gatherVars, gatherVars_mapSpans n]
  | .not ⟨e, _⟩, _ => by simp only [mapSpans, gatherVars, gatherVars_mapSpans e]
  | .newObject _, _ => by simp only [mapSpans, gatherVars]
  | .int _, _ => rfl
  | .bool _, _ => rfl
  | .var _, _ => rfl
  | .this, _ => rfl

theorem gatherVarsList_mapSpans : (es : List (Located Expr)) → (seen : List String) →
    gatherVarsList (mapSpansList g es) seen = gatherVarsList es seen
  | [], _ => rfl
  | ⟨e, _⟩ :: es, _ => by
      simp only [mapSpansList, gatherVarsList, gatherVars_mapSpans e, gatherVarsList_mapSpans es]

end

theorem vars_mapSpans (e : Expr) : (e.mapSpans g).vars = e.vars := by
  rw [vars, vars, gatherVars_mapSpans]

end Expr

namespace Tally

theorem declare_mapSpans (t : Tally) (d : VarDecl) : t.declare (d.mapSpans g) = t.declare d := by
  simp only [declare, VarDecl.idents, VarDecl.mapSpans, List.length_cons, List.length_map]

mutual

theorem stmt_mapSpans : (s : Stmt) → (t : Tally) → t.stmt (s.mapSpans g) = t.stmt s
  | .varDecl decl, t => by rw [Stmt.mapSpans, stmt, stmt, declare_mapSpans]
  | .block body, t => by rw [Stmt.mapSpans, stmt, stmt, stmts_mapSpans body]
  | .ifThen _ ⟨s, _⟩, t => by rw [Stmt.mapSpans, stmt, stmt, stmt_mapSpans s]
  | .ifElse _ ⟨s, _⟩ ⟨e, _⟩, t => by
      rw [Stmt.mapSpans, stmt, stmt, stmt_mapSpans s, stmt_mapSpans e]
  | .loop _ ⟨body, _⟩, t => by rw [Stmt.mapSpans, stmt, stmt, stmt_mapSpans body]
  | .print _, _ => rfl
  | .assign _ _, _ => rfl
  | .arrayAssign _ _ _, _ => rfl

theorem stmts_mapSpans : (ss : List (Located Stmt)) → (t : Tally) →
    t.stmts (Stmt.mapSpansList g ss) = t.stmts ss
  | [], _ => rfl
  | ⟨s, _⟩ :: ss, t => by
      rw [Stmt.mapSpansList, stmts, stmts, stmt_mapSpans s, stmts_mapSpans ss]

end

theorem method_mapSpans (t : Tally) (m : MethodDecl) : t.method (m.mapSpans g) = t.method m :=
  stmts_mapSpans g m.body t

theorem classDecl_mapSpans (t : Tally) (c : ClassDecl) :
    t.classDecl (c.mapSpans g) = t.classDecl c := by
  simp only [classDecl, ClassDecl.mapSpans, List.foldl_map, Located.mapSpans, declare_mapSpans,
    method_mapSpans]

theorem mainClass_mapSpans (t : Tally) (c : MainClass) :
    t.mainClass (c.mapSpans g) = t.mainClass c :=
  stmt_mapSpans g c.body.node t

theorem program_mapSpans (t : Tally) (p : Program) : t.program (p.mapSpans g) = t.program p := by
  simp only [program, Program.mapSpans, List.foldl_map, Located.mapSpans, classDecl_mapSpans,
    mainClass_mapSpans]

end Tally

theorem Node.tally_mapSpans : (n : Node) → (n.mapSpans g).tally = n.tally
  | .program p => Tally.program_mapSpans g {} p.node
  | .mainClass c => Tally.mainClass_mapSpans g {} c.node
  | .classDecl c => Tally.classDecl_mapSpans g {} c.node
  | .varDecl d => Tally.declare_mapSpans g {} d.node
  | .methodDecl m => Tally.method_mapSpans g {} m.node
  | .stmt s => Tally.stmt_mapSpans g s.node {}
  | .formal _ => rfl
  | .ty _ => rfl
  | .expr _ => rfl
  | .ident _ => rfl

end MiniJava
