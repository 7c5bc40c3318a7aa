import MiniJava.Proofs.Declarations.Frame

/-!
Every check is confined to what its node declares, by induction on the tree: each construct is built
from the steps of a check, and each of those is confined.
-/
namespace MiniJava

open CheckM

/-! ## One node after the other -/

namespace Stmt

mutual

theorem check_confined : (s : Stmt) → Confined s.declared s.check
  | .block body => by rw [check]; exact (checkList_confined body).withScope
  | .ifThen _ ⟨t, _⟩ => by rw [check]; exact check_confined t
  | .ifElse _ ⟨t, _⟩ ⟨e, _⟩ => by rw [check]; exact (check_confined t).bind (check_confined e)
  | .loop _ ⟨body, _⟩ => by rw [check]; exact check_confined body
  | .varDecl decl => by rw [check]; exact .declare decl.idents
  | .print _ => by rw [check]; exact .pure
  | .assign _ _ => by rw [check]; exact .pure
  | .arrayAssign _ _ _ => by rw [check]; exact .pure

theorem checkList_confined : (ss : List (Located Stmt)) → Confined (declaredList ss) (checkList ss)
  | [] => by rw [checkList]; exact .pure
  | ⟨s, _⟩ :: ss => by rw [checkList]; exact (check_confined s).bind (checkList_confined ss)

end

end Stmt

namespace MethodDecl

theorem checkFormals_confined (fs : List (Located Formal)) :
    Confined (fs.map (·.node.name)) (checkFormals fs) := by
  induction fs with
  | nil => exact .pure
  | cons f fs ih => exact (Confined.declare [f.node.name]).bind ih

/-- What the method declares in its own scope. -/
theorem checkScope_confined (m : MethodDecl) :
    Confined (m.formals.map (·.node.name) ++ Stmt.declaredList m.body)
      (do checkFormals m.formals; Stmt.checkList m.body) :=
  (checkFormals_confined m.formals).bind (Stmt.checkList_confined m.body)

theorem check_confined (m : MethodDecl) : Confined [] m.check :=
  m.checkScope_confined.withScope.emit fun s =>
    .checkingMethod s.checker.currentClass m.name.node

end MethodDecl

namespace ClassDecl

theorem checkFields_confined (ds : List (Located VarDecl)) :
    Confined (ds.flatMap (·.node.idents)) (checkFields ds) := by
  induction ds with
  | nil => exact .pure
  | cons d ds ih => exact (Confined.declare d.node.idents).bind ih

theorem checkMethods_confined (className : String) (ms : List (Located MethodDecl)) (seen : Scope) :
    Confined [] (checkMethods className seen ms) := by
  induction ms generalizing seen with
  | nil => exact .pure
  | cons m ms ih =>
      rw [checkMethods]
      split
      · exact (Confined.throw _).bind (ih _)
      · exact m.node.check_confined.bind (ih _)

theorem checkScope_confined (c : ClassDecl) :
    Confined (c.fields.flatMap (·.node.idents))
      (do checkFields c.fields; checkMethods c.name.node [] c.methods) := by
  have h := (checkFields_confined c.fields).bind (checkMethods_confined c.name.node c.methods [])
  rwa [List.append_nil] at h

theorem check_confined (c : ClassDecl) : Confined [] c.check :=
  c.checkScope_confined.withScope.inClass c.name.node

end ClassDecl

namespace MainClass

theorem checkScope_confined (c : MainClass) :
    Confined (c.args :: c.body.node.declared) (do CheckM.declare [c.args]; c.body.node.check) :=
  (Confined.declare [c.args]).bind c.body.node.check_confined

theorem check_confined (c : MainClass) : Confined [] c.check := c.checkScope_confined.withScope

end MainClass

namespace Program

theorem checkClasses_confined (cs : List (Located ClassDecl)) : Confined [] (checkClasses cs) := by
  induction cs with
  | nil => exact .pure
  | cons c cs ih => exact c.node.check_confined.bind ih

theorem check_confined (p : Program) : Confined [] p.check := by
  unfold check
  split
  · exact .throw _
  · exact p.mainClass.node.check_confined.bind (checkClasses_confined p.classes)

end Program

theorem Node.check_confined : (n : Node) → Confined n.declared n.check
  | .program p => p.node.check_confined
  | .mainClass c => c.node.check_confined
  | .classDecl c => c.node.check_confined
  | .varDecl d => .declare d.node.idents
  | .methodDecl m => m.node.check_confined
  | .formal f => .declare [f.node.name]
  | .stmt s => s.node.check_confined
  | .ty _ => .pure
  | .expr _ => .pure
  | .ident _ => .pure

/-! ## Checks in scopes of their own -/

theorem MethodDecl.verdict_eq (m : MethodDecl) (s s' : Session) :
    m.check.verdict s = m.check.verdict s' :=
  m.checkScope_confined.verdict_withScope
    { s with trace := s.trace.push (.checkingMethod s.checker.currentClass m.name.node) }
    { s' with trace := s'.trace.push (.checkingMethod s'.checker.currentClass m.name.node) }

theorem ClassDecl.verdict_eq (c : ClassDecl) (s s' : Session) :
    c.check.verdict s = c.check.verdict s' := by
  unfold check
  rw [verdict_inClass, verdict_inClass]
  exact c.checkScope_confined.verdict_withScope _ _

theorem MainClass.verdict_eq (c : MainClass) (s s' : Session) :
    c.check.verdict s = c.check.verdict s' := c.checkScope_confined.verdict_withScope s s'

theorem Program.verdict_checkClasses_eq (cs : List (Located ClassDecl)) (s s' : Session) :
    (checkClasses cs).verdict s = (checkClasses cs).verdict s' := by
  induction cs generalizing s s' with
  | nil => rfl
  | cons c cs ih =>
      rw [checkClasses, verdict_bind, verdict_bind, c.node.verdict_eq s s', ih (c.node.check.after s)]

theorem Program.verdict_eq (p : Program) (s s' : Session) :
    p.check.verdict s = p.check.verdict s' := by
  unfold check
  split
  · rfl
  · rw [verdict_bind, verdict_bind, p.mainClass.node.verdict_eq s s',
      verdict_checkClasses_eq p.classes (p.mainClass.node.check.after s)]

theorem Node.verdict_eq_of_isClosed {n : Node} (h : n.isClosed) (s s' : Session) :
    n.check.verdict s = n.check.verdict s' := by
  cases n with
  | program p => exact p.node.verdict_eq s s'
  | mainClass c => exact c.node.verdict_eq s s'
  | classDecl c => exact c.node.verdict_eq s s'
  | methodDecl m => exact m.node.verdict_eq s s'
  | stmt t =>
      obtain ⟨t, span⟩ := t
      cases t with
      | block body =>
          show (Stmt.check (.block body)).verdict s = (Stmt.check (.block body)).verdict s'
          rw [Stmt.check]
          exact (Stmt.checkList_confined body).verdict_withScope s s'
      | _ => cases h
  | _ => cases h

end MiniJava
