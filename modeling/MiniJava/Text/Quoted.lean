import MiniJava.Text.Printable

/-!
Quoted text: text between double quotes in which every character can be seen and read back. Quotes,
backslashes and the common controls have escapes of two characters; all else that shows nothing of
its own is escaped by its code point.
-/
namespace MiniJava.Text

def codePoint (c : Char) : String :=
  "\\u\x7b" ++ String.ofList (Nat.toDigits 16 c.toNat) ++ "\x7d"

def quotedChar (c : Char) : String :=
  if c = '\x00' then "\\0"
  else if c = '\t' then "\\t"
  else if c = '\r' then "\\r"
  else if c = '\n' then "\\n"
  else if c = '\\' then "\\\\"
  else if c = '"' then "\\\""
  else if isPrintable c then c.toString
  else codePoint c

def quoted (s : String) : String := "\"" ++ String.join (s.toList.map quotedChar) ++ "\""

end MiniJava.Text
