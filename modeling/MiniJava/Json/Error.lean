import MiniJava.Decimal.Shortest
import MiniJava.Json.Basic
import MiniJava.Text.Quoted

/-!
Why a JSON value cannot be read as a piece of syntax.
-/
namespace MiniJava

namespace Json

/-- What stands at a place, as far as an error message shows it. -/
inductive Found where
  | null
  | bool (value : Bool)
  | int (value : Int)
  | float (value : Float)
  | string (value : String)
  | sequence
  | map

def found : Json → Found
  | .null => .null
  | .bool value => .bool value
  | .int value => .int value
  | .float value => .float value
  | .string value => .string value
  | .array _ => .sequence
  | .object _ => .map

def Found.text : Found → String
  | .null => "null"
  | .bool value => "boolean `" ++ toString value ++ "`"
  | .int value => "integer `" ++ toString value ++ "`"
  | .float value => "floating point `" ++ Decimal.ofFloat value ++ "`"
  | .string value => "string " ++ Text.quoted value
  | .sequence => "sequence"
  | .map => "map"

inductive Expected where
  | record (name : String)
  | variant
  | string
  | position
  | literal
  | sequence
  | unit
  deriving DecidableEq

def Expected.text : Expected → String
  | .record name => "struct " ++ name
  | .variant => "string or map"
  | .string => "a string"
  | .position => "usize"
  | .literal => "i64"
  | .sequence => "a sequence"
  | .unit => "unit"

end Json

open Json in
inductive DecodeError where
  | wrongType (found : Found) (expected : Expected)
  | outOfRange (value : Int) (expected : Expected)
  | missingField (name : String)
  | tooShort (given : Nat) (record : String) (fields : Nat)
  | tooLong (given : Nat)
  | notOneMember
  | unknownVariant (name : String) (variants : List String)
  | missingPayload
  | noNames

namespace DecodeError

private def ticked (s : String) : String := "`" ++ s ++ "`"

/-- The variants that would have been understood: two with an `or`, more as a list. -/
def variantsText : List String → String
  | [a, b] => ticked a ++ " or " ++ ticked b
  | variants => "one of " ++ ", ".intercalate (variants.map ticked)

def message : DecodeError → String
  | .wrongType found expected =>
    "invalid type: " ++ found.text ++ ", expected " ++ expected.text
  | .outOfRange value expected =>
    "invalid value: " ++ (Json.Found.int value).text ++ ", expected " ++ expected.text
  | .missingField name => "missing field " ++ ticked name
  | .tooShort given record fields =>
    "invalid length " ++ toString given ++ ", expected struct " ++ record ++ " with " ++
      toString fields ++ (if fields = 1 then " element" else " elements")
  | .tooLong given =>
    "invalid length " ++ toString given ++ ", expected fewer elements in array"
  | .notOneMember => "invalid value: map, expected map with a single key"
  | .unknownVariant name variants =>
    "unknown variant " ++ ticked name ++ ", expected " ++ variantsText variants
  | .missingPayload => "invalid type: unit variant, expected newtype variant"
  | .noNames => "the vector provided was empty, NonEmpty needs at least one element"

end DecodeError

end MiniJava
