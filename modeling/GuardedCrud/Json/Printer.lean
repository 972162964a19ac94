import GuardedCrud.Json.Value

/-!
# Writing JSON

Values are written over several lines with an indentation of two blanks; empty containers stay on one line.
-/

namespace GuardedCrud.Json

/-- A lower case hexadecimal digit. -/
def hexChar (n : Nat) : Char := if n < 10 then Char.ofNat ('0'.toNat + n) else Char.ofNat ('a'.toNat + n - 10)

/-- A character as it stands in a string: quotes, backslashes and control characters are escaped. -/
def escaped (c : Char) : List Char :=
  if c = '"' then ['\\', '"']
  else if c = '\\' then ['\\', '\\']
  else if c = '\x08' then ['\\', 'b']
  else if c = '\x0c' then ['\\', 'f']
  else if c = '\n' then ['\\', 'n']
  else if c = '\r' then ['\\', 'r']
  else if c = '\t' then ['\\', 't']
  else if c.toNat < 0x20 then ['\\', 'u', '0', '0', hexChar (c.toNat / 16), hexChar (c.toNat % 16)]
  else [c]

/-- A string with its quotes. -/
def quoted (s : String) : String := "\"" ++ String.ofList (s.toList.flatMap escaped) ++ "\""

/-- The blanks in front of a line at a nesting depth. -/
def indentation (depth : Nat) : String := String.ofList (List.replicate (2 * depth) ' ')

mutual

/-- A value whose first line stands at a nesting depth. -/
def Value.pretty (depth : Nat) : Value → String
  | .null => "null"
  | .bool true => "true"
  | .bool false => "false"
  | .number text => text
  | .string s => quoted s
  | .array [] => "[]"
  | .array (v :: vs) => "[\n" ++ prettyItems (depth + 1) (v :: vs) ++ "\n" ++ indentation depth ++ "]"
  | .object [] => "\x7b\x7d"
  | .object (m :: ms) =>
    "\x7b\n" ++ prettyMembers (depth + 1) (m :: ms) ++ "\n" ++ indentation depth ++ "\x7d"

/-- Elements, one a line. -/
def prettyItems (depth : Nat) : List Value → String
  | [] => ""
  | [v] => indentation depth ++ v.pretty depth
  | v :: vs => indentation depth ++ v.pretty depth ++ ",\n" ++ prettyItems depth vs

/-- Members, one a line. -/
def prettyMembers (depth : Nat) : List (String × Value) → String
  | [] => ""
  | [(key, v)] => indentation depth ++ quoted key ++ ": " ++ v.pretty depth
  | (key, v) :: ms =>
    indentation depth ++ quoted key ++ ": " ++ v.pretty depth ++ ",\n" ++ prettyMembers depth ms

end

end GuardedCrud.Json
