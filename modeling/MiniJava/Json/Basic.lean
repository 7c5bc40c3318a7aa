/-!
JSON values. An object is a list of members with distinct names; numbers are whole numbers, or
floating-point numbers where they are written with a fraction or an exponent.
-/
namespace MiniJava

inductive Json where
  | null
  | bool (value : Bool)
  | int (value : Int)
  | float (value : Float)
  | string (value : String)
  | array (items : List Json)
  | object (members : List (String × Json))

namespace Json

/-- A part of a value is smaller than the value. -/
abbrev Part (j : Json) := { v : Json // sizeOf v < sizeOf j }

def parts (items : List Json) : List (Part (.array items)) :=
  items.attach.map fun ⟨v, h⟩ => ⟨v, by have := List.sizeOf_lt_of_mem h; simp; omega⟩

def namedParts (members : List (String × Json)) : List (String × Part (.object members)) :=
  members.attach.map fun ⟨(name, v), h⟩ =>
    (name, ⟨v, by have := List.sizeOf_lt_of_mem h; simp at this ⊢; omega⟩)

def ofString? : Option String → Json
  | some s => .string s
  | none => .null

/-- What a construct holds, under its name. -/
def tagged (name : String) (payload : Json) : Json := .object [(name, payload)]

end Json

end MiniJava
