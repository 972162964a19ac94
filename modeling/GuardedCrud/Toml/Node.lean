import GuardedCrud.Json.Value

/-!
# TOML values

A settings file is a tree of tables.  How a table came about decides whether later lines may add to it.
-/

namespace GuardedCrud.Toml

/-- How a table came about. -/
inductive TableKind
  /-- Written out in braces: nothing may be added. -/
  | closed
  /-- Opened by a header of its own. -/
  | header
  /-- Passed through by the header of a table below it. -/
  | implied
  /-- Made by a dotted key. -/
  | dotted
  deriving DecidableEq, Repr

/-- A TOML value. -/
inductive Node
  | text (s : String)
  | integer (n : Int)
  | float (digits : String)
  | bool (b : Bool)
  | datetime (digits : String)
  | array (items : List Node)
  | table (kind : TableKind) (entries : List (String × Node))
  /-- Tables under one header, one for each time the header stands. -/
  | tables (elements : List (List (String × Node)))
  deriving Repr, Inhabited

/-- The entries of a table. -/
abbrev Entries := List (String × Node)

mutual

/-- The JSON value that structures are read from.  A date or a time is an object with a member that no structure
has. -/
def Node.toJson : Node → Json.Value
  | .text s => .string s
  | .integer n => .number (toString n)
  | .float digits => .number digits
  | .bool b => .bool b
  | .datetime digits => .object [("$datetime", .string digits)]
  | .array items => .array (itemsToJson items)
  | .table _ entries => .object (entriesToJson entries)
  | .tables elements => .array (elementsToJson elements)

/-- The values of some items. -/
def itemsToJson : List Node → List Json.Value
  | [] => []
  | n :: ns => n.toJson :: itemsToJson ns

/-- The members of some entries. -/
def entriesToJson : List (String × Node) → List (String × Json.Value)
  | [] => []
  | (key, n) :: rest => (key, n.toJson) :: entriesToJson rest

/-- The objects of some tables. -/
def elementsToJson : List (List (String × Node)) → List Json.Value
  | [] => []
  | entries :: rest => .object (entriesToJson entries) :: elementsToJson rest

end

end GuardedCrud.Toml
