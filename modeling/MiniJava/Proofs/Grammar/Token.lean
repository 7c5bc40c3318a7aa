import MiniJava.Syntax.Expr

/-!
Tokens of source text. Blank characters separate tokens and are dropped; a word is as long as it can
be, and is a name unless it is reserved. Which words are reserved is left open, since an expression
by itself reserves fewer of them than a program.
-/
namespace MiniJava

/-- The words that are spelled out in the grammar. -/
inductive Keyword where
  | «class»
  | «extends»
  | «public»
  | static
  | void
  | main
  | string
  | system
  | «return»
  | «if»
  | «else»
  | «while»
  | int
  | boolean
  | trueLiteral
  | falseLiteral
  | self
  | new
  | length
  deriving DecidableEq

def Keyword.text : Keyword → String
  | .class => "class"
  | .extends => "extends"
  | .public => "public"
  | .static => "static"
  | .void => "void"
  | .main => "main"
  | .string => "String"
  | .system => "System"
  | .return => "return"
  | .if => "if"
  | .else => "else"
  | .while => "while"
  | .int => "int"
  | .boolean => "boolean"
  | .trueLiteral => "true"
  | .falseLiteral => "false"
  | .self => "this"
  | .new => "new"
  | .length => "length"

def Keyword.ofExpr : List Keyword := [.trueLiteral, .falseLiteral, .self, .new, .int, .length]

def Keyword.ofProgram : List Keyword :=
  [.class, .extends, .public, .static, .void, .main, .string, .system, .return, .if, .else, .while,
    .int, .boolean, .trueLiteral, .falseLiteral, .self, .new, .length]

inductive Symbol where
  | leftParen
  | rightParen
  | leftBracket
  | rightBracket
  | leftBrace
  | rightBrace
  | semicolon
  | comma
  | dot
  | assign
  | not
  | and
  | lessThan
  | plus
  | minus
  | times
  deriving DecidableEq

def Symbol.ofChar? : Char → Option Symbol
  | '(' => some .leftParen
  | ')' => some .rightParen
  | '[' => some .leftBracket
  | ']' => some .rightBracket
  | '\x7b' => some .leftBrace
  | '\x7d' => some .rightBrace
  | ';' => some .semicolon
  | ',' => some .comma
  | '.' => some .dot
  | '=' => some .assign
  | '!' => some .not
  | '<' => some .lessThan
  | '+' => some .plus
  | '-' => some .minus
  | '*' => some .times
  | _ => none

inductive Token where
  | keyword (k : Keyword)
  | name (text : String)
  | int (value : Int)
  | symbol (s : Symbol)
  /-- A character that no token starts with. -/
  | stray (c : Char)
  deriving DecidableEq

namespace Token

def isBlank (c : Char) : Bool := c == ' ' || c == '\t' || c == '\r' || c == '\n'

def startsWord (c : Char) : Bool := c.isAlpha || c == '_'

def inWord (c : Char) : Bool := c.isAlphanum || c == '_'

def ofWord (reserved : List Keyword) (word : String) : Token :=
  match reserved.find? (·.text == word) with
  | some k => .keyword k
  | none => .name word

def number (digits : List Char) : Nat := Nat.ofDigitChars 10 digits 0

/-- The tokens of a text. A minus sign right before a digit is part of the number. -/
def scan (reserved : List Keyword) : List Char → List Token
  | [] => []
  | c :: cs =>
    if isBlank c then scan reserved cs
    else if startsWord c then
      ofWord reserved (String.ofList (c :: cs.takeWhile inWord)) ::
        scan reserved (cs.dropWhile inWord)
    else if c.isDigit then
      .int (number (c :: cs.takeWhile Char.isDigit)) :: scan reserved (cs.dropWhile Char.isDigit)
    else if c = '-' ∧ cs.head?.any Char.isDigit then
      .int (-number (cs.takeWhile Char.isDigit)) :: scan reserved (cs.dropWhile Char.isDigit)
    else if c = '&' ∧ cs.head? = some '&' then .symbol .and :: scan reserved cs.tail
    else
      match Symbol.ofChar? c with
      | some s => .symbol s :: scan reserved cs
      | none => .stray c :: scan reserved cs
termination_by cs => cs.length
decreasing_by
  all_goals simp only [List.length_cons, List.length_tail]
  all_goals first
    | exact Nat.lt_succ_self _
    | exact Nat.lt_succ_of_le (List.dropWhile_sublist _).length_le
    | omega

/-- The token lists, with commas between. -/
def commas : List (List Token) → List Token
  | [] => []
  | [ts] => ts
  | ts :: us :: tss => ts ++ .symbol .comma :: commas (us :: tss)

end Token

/-- The word is a name: letters, digits and underscores, no digit first, and not reserved. -/
def isName (reserved : List Keyword) (word : String) : Bool :=
  match word.toList with
  | [] => false
  | c :: cs => Token.startsWord c && cs.all Token.inWord && reserved.all (·.text != word)

end MiniJava
