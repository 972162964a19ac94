/-!
# Tokens of the schema language

Names, quoted texts, numbers, documentation comments, brackets and punctuation marks.
-/

namespace GuardedCrud.Schema

/-- The kinds of brackets. -/
inductive Bracket
  | brace
  | paren
  | square
  deriving DecidableEq, Repr

/-- Punctuation marks. -/
inductive Mark
  | comma
  | colon
  | question
  | equals
  | dot
  | at
  | doubleAt
  deriving DecidableEq, Repr

/-- A token of the schema language. -/
inductive Token
  /-- A name or a keyword. -/
  | ident (name : String)
  /-- What stands between double quotes, with its escapes as written. -/
  | quoted (content : String)
  | number (digits : String)
  /-- A `///` comment, without the blanks around its text. -/
  | doc (text : String)
  | opening (b : Bracket)
  | closing (b : Bracket)
  | mark (m : Mark)
  deriving DecidableEq, Repr

/-- A token and the line on which it begins, counted from one. -/
structure Placed where
  token : Token
  line : Nat
  deriving DecidableEq, Repr

/-- How a bracket opens. -/
def Bracket.openingSymbol : Bracket → String
  | .brace => "\x7b"
  | .paren => "("
  | .square => "["

/-- How a bracket closes. -/
def Bracket.closingSymbol : Bracket → String
  | .brace => "\x7d"
  | .paren => ")"
  | .square => "]"

/-- How a mark is written. -/
def Mark.symbol : Mark → String
  | .comma => ","
  | .colon => ":"
  | .question => "?"
  | .equals => "="
  | .dot => "."
  | .at => "@"
  | .doubleAt => "@@"

/-- The fixed spelling of a bracket or a mark; other tokens have none. -/
def Token.symbol : Token → String
  | .opening b => b.openingSymbol
  | .closing b => b.closingSymbol
  | .mark m => m.symbol
  | _ => ""

/-- How a message names a token. -/
def Token.describe : Token → String
  | .ident name => "identifier '" ++ name ++ "'"
  | .quoted content => "string \"" ++ content ++ "\""
  | .number digits => "number " ++ digits
  | .doc _ => "documentation comment"
  | t => "'" ++ t.symbol ++ "'"

end GuardedCrud.Schema
