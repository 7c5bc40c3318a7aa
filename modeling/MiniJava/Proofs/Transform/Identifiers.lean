import MiniJava.Proofs.Declarations.Renaming
import MiniJava.Proofs.Outline.Heading
import MiniJava.Proofs.Outline.Lines
import MiniJava.Proofs.Syntax.Sorts
import MiniJava.Proofs.Transform.Entries

/-!
The outline of a node whose names are transformed. It is the outline before with the hook run line
by line on the identifiers, and only their lines change.
-/
namespace MiniJava

open Node Outline MiniJava.Tree

variable {m : Type → Type} [Monad m]

/-! ## The lines of a transformed node -/

namespace Outline

variable (locs : Bool)

/-- The line of a node, or of what the hook puts in the place of an identifier. -/
def hookedLine (hook : Ident → m Ident) (l : Nat × Node) : m Line :=
  (.code l.1 ·) <$> hookedEntry locs hook l.2

/-- Transform the names of the node and outline what it becomes. -/
def linesAfter (hook : Ident → m Ident) (n : Node) : m (List Line) :=
  (fun n => lines locs n.tree) <$> (Transform.ofIdent hook).onNode n

theorem lines_eq_entries (t : Tree Node) :
    lines locs t = ((entries locs t).levels 0).map fun l => .code l.1 l.2 := by
  rw [lines_eq_map, entries, levels_map, List.map_map]
  rfl

theorem linesAfter_eq_mapM [LawfulMonad m] (hook : Ident → m Ident) (n : Node) :
    linesAfter locs hook n = (n.tree.levels 0).mapM (hookedLine locs hook) := by
  let code (l : Nat × String) : Line := .code l.1 l.2
  calc
    _ = (fun t => (t.levels 0).map code) <$>
          (fun n => entries locs n.tree) <$> (Transform.ofIdent hook).onNode n := by
      simp [linesAfter, lines_eq_entries, code]
    _ = List.map code <$> levels 0 <$> n.tree.traverse (hookedEntry locs hook) := by
      rw [Transform.entries_onNode, Functor.map_map]
    _ = (n.tree.levels 0).mapM (hookedLine locs hook) := by
      rw [levels_traverse, map_mapM]
      simp only [Functor.map_map]
      rfl

/-! ## Replaced names -/

/-- The entry of an identifier: its name, and its place if locations are shown. -/
def identEntry (i : Ident) : String :=
  let heading := "Identifier " ++ i.node
  if locs then heading ++ " @" ++ i.span.start.text else heading

/-- The entry of a node, with another name if it is that of an identifier. -/
def renamedEntry (f : String → String) : Node → String
  | .ident i => identEntry locs (i.map f)
  | n => entry locs n

theorem entry_ident (i : Ident) : entry locs (.ident i) = identEntry locs i := by
  have hheading : (Node.ident i).heading = "Identifier " ++ i.node := rfl
  rw [entry, hheading]
  rfl

theorem hookedLine_renamed (f : String → String) (l : Nat × Node) :
    hookedLine (m := Id) locs (·.map f) l = .code l.1 (renamedEntry locs f l.2) := by
  obtain ⟨depth, n⟩ := l
  cases n with
  | ident i => exact congrArg (Line.code depth) (entry_ident locs (i.map f))
  | _ => rfl

theorem lines_renamed (f : String → String) (n : Node) :
    lines locs ((Transform.renameIdents f).onNode n : Node).tree =
      (n.tree.levels 0).map fun l => .code l.1 (renamedEntry locs f l.2) := by
  have hlines := linesAfter_eq_mapM (m := Id) locs (·.map f) n
  have hline : hookedLine (m := Id) locs (·.map f) =
      fun l => pure (.code l.1 (renamedEntry locs f l.2)) :=
    funext (hookedLine_renamed locs f)
  rw [hline, List.mapM_pure] at hlines
  exact hlines

/-- The use of a variable is no identifier, whatever its name. -/
example (s t u : Span) :
    let call : Node := .expr ⟨.call ⟨.var "a", s⟩ ⟨"a", t⟩ [], u⟩
    lines false ((Transform.renameIdents fun _ => "b").onNode call : Node).tree =
      [.code 0 "Call", .code 1 "IdentifierExp a", .code 1 "Identifier b"] := rfl

/-- After the name of the construct an entry ends or goes on with a space. -/
theorem toList_entry (n : Node) : ∃ rest,
    (entry locs n).toList = n.tag.construct.name.toList ++ rest ∧ ∀ c ∈ rest.head?, c = ' ' := by
  have hleaf : ∀ c ∈ (n.tag.leaf?.elim [] (' ' :: ·.toList)).head?, c = ' ' := by
    cases n.tag.leaf? <;> simp
  cases locs with
  | false => exact ⟨_, by rw [entry, heading_eq_text]; exact n.tag.toList_text, hleaf⟩
  | true =>
      refine ⟨n.tag.leaf?.elim [] (' ' :: ·.toList) ++ (" @" ++ n.span.start.text).toList, ?_, ?_⟩
      · simp [entry, heading_eq_text, Tag.toList_text]
      · cases h : n.tag.leaf? <;> simp

theorem ident_of_construct {n : Node} (h : n.tag.construct = .ident) : ∃ i, n = .ident i := by
  cases n with
  | ident i => exact ⟨i, rfl⟩
  | expr e =>
      obtain ⟨e, span⟩ := e
      cases e <;> cases h
  | ty t =>
      obtain ⟨t, span⟩ := t
      cases t <;> cases h
  | stmt s =>
      obtain ⟨s, span⟩ := s
      cases s <;> cases h
  | classDecl c =>
      obtain ⟨⟨name, parent, fields, methods⟩, span⟩ := c
      cases parent <;> cases h
  | _ => cases h

/-- The entries of identifiers can be told from all others. -/
theorem reads_identifier_iff (n : Node) :
    (∃ text, entry locs n = "Identifier " ++ text) ↔ ∃ i, n = .ident i := by
  constructor
  · rintro ⟨text, h⟩
    obtain ⟨rest, hentry, hspace⟩ := toList_entry locs n
    have hidentifier : (entry locs n).toList = "Identifier".toList ++ ' ' :: text.toList := by
      rw [h, String.toList_append]
      rfl
    rw [hidentifier] at hentry
    have hname : ' ' ∉ n.tag.construct.name.toList := Construct.notMem_name _ (by decide)
    cases rest with
    | nil =>
        rw [List.append_nil] at hentry
        exact absurd (hentry ▸ List.mem_append_right _ List.mem_cons_self) hname
    | cons c rest =>
        obtain rfl : c = ' ' := hspace c rfl
        obtain ⟨hconstruct, -⟩ := append_cons_inj (by decide) hname hentry
        exact ident_of_construct (Construct.name_injective (String.toList_inj.mp hconstruct.symm))
  · rintro ⟨i, rfl⟩
    rw [entry_ident, identEntry]
    cases locs with
    | false => exact ⟨i.node, rfl⟩
    | true => exact ⟨i.node ++ " @" ++ i.span.start.text, by simp [String.append_assoc]⟩

end Outline

/-! ## The calls of the hook -/

variable {σ : Type}

/-- The hook, which also keeps a record of the identifiers that it is called with. -/
def Transform.recording (hook : Ident → StateM σ Ident) (i : Ident) :
    StateM (σ × List Ident) Ident :=
  fun (s, calls) =>
    let (i', s') := hook i s
    (i', s', calls ++ [i])

namespace Outline

/-- The identifiers among the nodes that the lines are for, in order. -/
def lineIdents (ls : List (Nat × Node)) : List Ident := ls.filterMap fun l => l.2.ident?

/-- A result beside a state, with a record of calls in the state. -/
def withIdents {α : Type} (calls : List Ident) (r : α × σ) : α × σ × List Ident :=
  (r.1, r.2, calls)

theorem lineIdents_cons (l : Nat × Node) (ls : List (Nat × Node)) :
    lineIdents (l :: ls) = l.2.ident?.toList ++ lineIdents ls := by
  cases h : l.2.ident? <;> simp [lineIdents, h]

theorem hookedLine_recording (locs : Bool) (hook : Ident → StateM σ Ident) (l : Nat × Node)
    (s : σ) (calls : List Ident) :
    hookedLine locs (Transform.recording hook) l (s, calls) =
      withIdents (calls ++ l.2.ident?.toList) (hookedLine locs hook l s) := by
  obtain ⟨depth, n⟩ := l
  cases n with
  | ident i => rfl
  | _ => exact congrArg (fun calls => (_, s, calls)) (List.append_nil calls).symm

theorem mapM_cons_apply {α β : Type} (f : α → StateM σ β) (a : α) (as : List α) (s : σ) :
    (a :: as).mapM f s =
      ((f a s).1 :: (as.mapM f (f a s).2).1, (as.mapM f (f a s).2).2) := by
  rw [List.mapM_cons]
  rfl

/-- Recording the calls leaves the lines and the state of the hook as they are, and the record has
the identifiers of the lines in order. -/
theorem mapM_recording (locs : Bool) (hook : Ident → StateM σ Ident) (ls : List (Nat × Node))
    (s : σ) (calls : List Ident) :
    ls.mapM (hookedLine locs (Transform.recording hook)) (s, calls) =
      withIdents (calls ++ lineIdents ls) (ls.mapM (hookedLine locs hook) s) := by
  induction ls generalizing s calls with
  | nil => exact congrArg (fun calls => (_, s, calls)) (List.append_nil calls).symm
  | cons l ls ih =>
      rw [mapM_cons_apply, mapM_cons_apply, hookedLine_recording, lineIdents_cons,
        ← List.append_assoc]
      simp only [withIdents, ih]

theorem linesAfter_recording (locs : Bool) (hook : Ident → StateM σ Ident) (n : Node) (s : σ) :
    linesAfter locs (Transform.recording hook) n (s, []) =
      withIdents (lineIdents (n.tree.levels 0)) (linesAfter locs hook n s) := by
  rw [linesAfter_eq_mapM, linesAfter_eq_mapM, mapM_recording, List.nil_append]

/-- A transformation that has a hook for names alone changes the lines of identifiers and no others
in the outline of a node. Where the hook is a function on names, it is applied to the name in each
of these lines; and any hook is called once for each of them, in the order of the lines. -/
theorem ident_hook_reaches_identifier_lines :
    (∀ (n : Node) (config : Config) (f : String → String),
      let locs := config.showLocations
      let renamed : Node := (Transform.renameIdents f).onNode n
      lines locs n.tree = (n.tree.levels 0).map (fun l => .code l.1 (entry locs l.2)) ∧
      lines locs renamed.tree =
        (n.tree.levels 0).map (fun l => .code l.1 (renamedEntry locs f l.2)) ∧
      ∀ n' : Node, n'.outline config = Lines.text config.indentWidth 0 (lines locs n'.tree)) ∧
    (∀ (locs : Bool) (n : Node),
      ((∃ text, entry locs n = "Identifier " ++ text) ↔ ∃ i, n = .ident i) ∧
      ∀ i, n = .ident i → entry locs n = identEntry locs i) ∧
    (∀ (m : Type → Type) [Monad m] [LawfulMonad m] (locs : Bool) (hook : Ident → m Ident)
      (n : Node),
      linesAfter locs hook n = (n.tree.levels 0).mapM (hookedLine locs hook)) ∧
    ∀ (σ : Type) (locs : Bool) (hook : Ident → StateM σ Ident) (n : Node) (s : σ),
      linesAfter locs (Transform.recording hook) n (s, []) =
        withIdents (lineIdents (n.tree.levels 0)) (linesAfter locs hook n s) := by
  refine ⟨?renamed, ?entries, ?hooked, ?recorded⟩
  case renamed =>
    intro n config f locs renamed
    refine ⟨lines_eq_map locs n.tree, lines_renamed locs f n, fun n' => ?_⟩
    rw [output_outline, lines_eq_map]
  case entries =>
    intro locs n
    refine ⟨reads_identifier_iff locs n, ?_⟩
    rintro i rfl
    exact entry_ident locs i
  case hooked =>
    intro m _ _ locs hook n
    exact linesAfter_eq_mapM locs hook n
  case recorded =>
    intro σ locs hook n s
    exact linesAfter_recording locs hook n s

end Outline

end MiniJava
