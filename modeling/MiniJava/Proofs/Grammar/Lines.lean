import MiniJava.Layout.Line
import MiniJava.Proofs.Grammar.Scan

/-!
The tokens of laid-out text. They are those of the lines one after the other, however deep the lines
are nested and however wide a level is.
-/
namespace MiniJava

open Token

namespace Line

def tokens (reserved : List Keyword) : Line → List Token
  | .code _ text => scan reserved text.toList
  | .blank => []

variable {reserved : List Keyword}

@[simp] theorem tokens_deeper (l : Line) : l.deeper.tokens reserved = l.tokens reserved := by
  cases l <;> rfl

theorem scan_spaces (n : Nat) (cs : List Char) :
    scan reserved ((spaces n).toList ++ cs) = scan reserved cs := by
  rw [spaces, String.toList_ofList]
  induction n with
  | zero => rfl
  | succ n ih => rw [List.replicate_succ, List.cons_append, scan_space, ih]

theorem scan_text_append (width level : Nat) (l : Line) (cs : List Char) :
    scan reserved ((l.text width level).toList ++ cs) = l.tokens reserved ++ scan reserved cs := by
  cases l with
  | code depth text =>
      simp only [Line.text, String.toList_append, String.reduceToList, List.append_assoc,
        List.cons_append, List.nil_append]
      rw [scan_spaces, scan_append_blank rfl, tokens]
  | blank =>
      simp only [Line.text, String.reduceToList, List.cons_append, List.nil_append]
      rw [scan_blank rfl, tokens, List.nil_append]

end Line

namespace Lines

def tokens (reserved : List Keyword) (ls : List Line) : List Token :=
  ls.flatMap (Line.tokens reserved)

variable {reserved : List Keyword}

@[simp] theorem tokens_nil : tokens reserved [] = [] := rfl

@[simp] theorem tokens_cons (l : Line) (ls : List Line) :
    tokens reserved (l :: ls) = l.tokens reserved ++ tokens reserved ls := rfl

@[simp] theorem tokens_append (ls ls' : List Line) :
    tokens reserved (ls ++ ls') = tokens reserved ls ++ tokens reserved ls' :=
  List.flatMap_append

@[simp] theorem tokens_nest (ls : List Line) : tokens reserved (nest ls) = tokens reserved ls := by
  simp [tokens, nest, List.flatMap_map]

/-- Indentation and line ends leave no trace in the tokens. -/
theorem scan_text (width level : Nat) (ls : List Line) :
    scan reserved (Lines.text width level ls).toList = tokens reserved ls := by
  induction ls with
  | nil => exact scan_nil
  | cons l ls ih =>
      rw [text_cons, String.toList_append, Line.scan_text_append, ih, tokens_cons]

end Lines

end MiniJava
