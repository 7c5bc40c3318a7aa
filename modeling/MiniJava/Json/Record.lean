import MiniJava.Json.Error
import MiniJava.Word

/-!
Reading JSON values. A record is read from an object by the names of its fields, or from an array by
their positions. All fields of an object are read; of several faults the one that counts is a wrong
value before a missing one, the wrong value with the least name, and the missing field that is
declared first. Members of other names are ignored.

A reader of parts is given a proof that the part is smaller, so that readers of syntax can be
recursive.
-/
namespace MiniJava

abbrev Decode := Except DecodeError

namespace Json

/-- A reader for the parts of a value. -/
abbrev PartReader (j : Json) (α : Type) := (v : Json) → sizeOf v < sizeOf j → Decode α

inductive Fault where
  | wrong (field : String) (error : DecodeError)
  | missing (field : String)

/-- What a record is read from: members by name, or values by position. -/
inductive Fields (j : Json) where
  | named (members : List (String × Part j))
  | listed (values : List (Part j))

namespace Fields

variable {j : Json} {α β : Type}

def value? (f : Fields j) (position : Nat) (name : String) : Option (Part j) :=
  match f with
  | .named members => (members.find? (·.1 == name)).map Prod.snd
  | .listed values => values[position]?

def field (f : Fields j) (position : Nat) (name : String) (read : PartReader j α) :
    Except Fault α :=
  match f.value? position name with
  | some v => (read v.1 v.2).mapError (.wrong name)
  | none => .error (.missing name)

/-- Read a field that may be null. By name it may also be left out. -/
def field? (f : Fields j) (position : Nat) (name : String) (read : PartReader j α) :
    Except Fault (Option α) :=
  match f, f.value? position name with
  | _, some ⟨.null, _⟩ => .ok none
  | _, some v => ((read v.1 v.2).map some).mapError (.wrong name)
  | .named _, none => .ok none
  | .listed _, none => .error (.missing name)

/-- Of two faults, the one that counts; the first is that of an earlier field. -/
def worse (f : Fields j) : Fault → Fault → Fault
  | .wrong a e, .wrong b e' =>
    match f with
    | .named _ => if b < a then .wrong b e' else .wrong a e
    | .listed _ => .wrong a e
  | .missing _, .wrong b e' => .wrong b e'
  | fault, .missing _ => fault

/-- Two results for fields, the first declared earlier. -/
def both (f : Fields j) : Except Fault α → Except Fault β → Except Fault (α × β)
  | .ok a, .ok b => .ok (a, b)
  | .ok _, .error fault => .error fault
  | .error fault, .ok _ => .error fault
  | .error fault, .error fault' => .error (f.worse fault fault')

end Fields

def record {α : Type} (j : Json) (name : String) (fields : Nat)
    (read : Fields j → Except Fault α) : Decode α :=
  match j with
  | .object members =>
    match read (.named (namedParts members)) with
    | .ok a => .ok a
    | .error (.wrong _ error) => .error error
    | .error (.missing field) => .error (.missingField field)
  | .array items =>
    match read (.listed (parts items)) with
    | .ok a => if fields < items.length then .error (.tooLong items.length) else .ok a
    | .error (.wrong _ error) => .error error
    | .error (.missing _) => .error (.tooShort items.length name fields)
  | j => .error (.wrongType j.found (.record name))

def list {α : Type} (j : Json) (read : PartReader j α) : Decode (List α) :=
  match j with
  | .array items => (parts items).mapM fun v => read v.1 v.2
  | j => .error (.wrongType j.found .sequence)

/-- A variant of a type with several: its name, and what it holds. -/
structure Variant (j : Json) where
  name : String
  payload : Option (Part j)

/-- A variant is a string, or an object with one member. -/
def variant (j : Json) : Decode (Variant j) :=
  match j with
  | .string name => .ok ⟨name, none⟩
  | .object [(name, v)] => .ok ⟨name, some ⟨v, by simp; omega⟩⟩
  | .object _ => .error .notOneMember
  | j => .error (.wrongType j.found .variant)

namespace Variant

variable {j : Json}

/-- What the variant holds; something must be given. -/
def held (t : Variant j) : Decode (Part j) :=
  match t.payload with
  | some v => .ok v
  | none => .error .missingPayload

/-- A variant that holds nothing; null may be given. -/
def bare {α : Type} (t : Variant j) (a : α) : Decode α :=
  match t.payload with
  | none | some ⟨.null, _⟩ => .ok a
  | some v => .error (.wrongType v.1.found .unit)

end Variant

def readString : Json → Decode String
  | .string value => .ok value
  | j => .error (.wrongType j.found .string)

def readPosition : Json → Decode UInt64
  | .int value =>
    match Word.unsigned? value with
    | some position => .ok position
    | none => .error (.outOfRange value .position)
  | j => .error (.wrongType j.found .position)

def readLiteral : Json → Decode Int64
  | .int value =>
    match Word.signed? value with
    | some literal => .ok literal
    | none => .error (.outOfRange value .literal)
  | j => .error (.wrongType j.found .literal)

end Json

end MiniJava
