import GuardedCrud.Toml.Node

/-!
# Writing TOML

A document of texts: pairs at the top, then tables of pairs.  A text is written in the plainest quotes that can hold
it, and with escapes only where no quotes can hold it as it is.
-/

namespace GuardedCrud.Toml

/-- A control character other than a tab and a line feed. -/
def isControl (c : Char) : Bool := (c.toNat < 0x20 && c != '\t' && c != '\n') || c.toNat == 0x7F

/-- The length of the longest run of a character. -/
def longestRun (quote : Char) (run longest : Nat) : List Char → Nat
  | [] => max run longest
  | c :: rest => if c = quote then longestRun quote (run + 1) longest rest else longestRun quote 0 (max run longest) rest

/-- The quotes of a text. -/
inductive Style
  /-- Double quotes, on one line, with escapes. -/
  | basic
  /-- Single quotes, on one line, as it is. -/
  | literal
  /-- Three double quotes, with escapes. -/
  | basicLines
  /-- Three single quotes, as it is. -/
  | literalLines
  deriving DecidableEq, Repr

/-- The plainest quotes that can hold a text. -/
def Style.ofText (cs : List Char) : Style :=
  let newline := cs.contains '\n'
  let control := cs.any isControl
  if !newline && !control && !cs.contains '\\' && !cs.contains '"' then .basic
  else if !newline && !control && !cs.contains '\'' then .literal
  else if !control && !cs.contains '\\' && longestRun '"' 0 0 cs < 3 then .basicLines
  else if !control && longestRun '\'' 0 0 cs < 3 then .literalLines
  else if newline then .basicLines
  else .basic

/-- The quotes around a text. -/
def Style.delimiter : Style → List Char
  | basic => ['"']
  | literal => ['\'']
  | basicLines => ['"', '"', '"']
  | literalLines => ['\'', '\'', '\'']

/-- The text may go over several lines. -/
def Style.hasLines : Style → Bool
  | basic | literal => false
  | basicLines | literalLines => true

/-- An upper case hexadecimal digit. -/
def hexChar (n : Nat) : Char := if n < 10 then Char.ofNat ('0'.toNat + n) else Char.ofNat ('A'.toNat + n - 10)

/-- A character other than a double quote, with escapes; a line feed stands as it is in a text of several lines. -/
def escaped (lines : Bool) (c : Char) : List Char :=
  if c = '\x08' then ['\\', 'b']
  else if c = '\t' then ['\\', 't']
  else if c = '\n' then if lines then ['\n'] else ['\\', 'n']
  else if c = '\x0c' then ['\\', 'f']
  else if c = '\r' then ['\\', 'r']
  else if c = '\\' then ['\\', '\\']
  else if c.toNat < 0x20 ∨ c.toNat = 0x7F then
    ['\\', 'u', '0', '0', hexChar (c.toNat / 16), hexChar (c.toNat % 16)]
  else [c]

/-- A text with escapes, after `run` double quotes.  Up to `most` double quotes in a row stand as they are, and then
one is escaped. -/
def escapedText (lines : Bool) (most run : Nat) : List Char → List Char
  | [] => []
  | c :: rest =>
    if c = '"' then
      if run < most then '"' :: escapedText lines most (run + 1) rest
      else '\\' :: '"' :: escapedText lines most 0 rest
    else escaped lines c ++ escapedText lines most 0 rest

/-- What stands between the quotes. -/
def Style.body (cs : List Char) : Style → List Char
  | basic => escapedText false 0 0 cs
  | basicLines => escapedText true 2 0 cs
  | literal | literalLines => cs

/-- A text in quotes.  A text of several lines begins on a line of its own. -/
def quoted (text : String) : String :=
  let cs := text.toList
  let style := Style.ofText cs
  let start := if style.hasLines && cs.contains '\n' then ['\n'] else []
  String.ofList (style.delimiter ++ start ++ style.body cs ++ style.delimiter)

/-- A document of texts. -/
structure Document where
  pairs : List (String × String)
  tables : List (String × List (String × String))
  deriving DecidableEq, Repr

namespace Document

/-- A key and its text on a line. -/
def pairLine (pair : String × String) : String := pair.1 ++ " = " ++ quoted pair.2 ++ "\n"

/-- A table after a blank line. -/
def tableLines (table : String × List (String × String)) : String :=
  "\n[" ++ table.1 ++ "]\n" ++ String.join (table.2.map pairLine)

/-- The text of a document. -/
def render (d : Document) : String := String.join (d.pairs.map pairLine) ++ String.join (d.tables.map tableLines)

/-- The entries of some pairs. -/
def entries (pairs : List (String × String)) : Entries := pairs.map fun (key, text) => (key, .text text)

/-- The table that a document writes. -/
def toNode (d : Document) : Node :=
  .table .header (entries d.pairs ++ d.tables.map fun (name, pairs) => (name, .table .header (entries pairs)))

end Document

end GuardedCrud.Toml
