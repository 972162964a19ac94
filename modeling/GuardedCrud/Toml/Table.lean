import GuardedCrud.Toml.Node

/-!
# Putting the lines of a document into tables

A document is a sequence of lines: headers and pairs of a dotted key and a value.  A pair belongs to the last header
before it.  Nothing may be written twice, and a table may be added to only in the way in which it came about.
-/

namespace GuardedCrud.Toml

/-- A dotted key and its value. -/
structure Pair where
  keys : List String
  value : Node

/-- A line of a document that says something. -/
inductive Line
  | pair (p : Pair)
  /-- A header in single brackets. -/
  | table (keys : List String)
  /-- A header in double brackets, which opens one more table of a list. -/
  | element (keys : List String)

/-- Another value for a key that is there. -/
def replace (key : String) (value : Node) (entries : Entries) : Entries :=
  entries.map fun (k, v) => if k = key then (k, value) else (k, v)

/-- Change the last of some tables. -/
def alterLast (f : Entries → Option Entries) (elements : List Entries) : Option (List Entries) :=
  match elements.getLast? with
  | none => none
  | some last => (f last).map fun last => elements.dropLast ++ [last]

/-- Entries with one more value under a dotted key.  Tables on the way are made as needed; one that was there must be
made by dotted keys too, or be passed through on the way to such a table. -/
def insert (value : Node) : List String → Entries → Option Entries
  | [], _ => none
  | [key], entries =>
    match entries.lookup key with
    | none => some (entries ++ [(key, value)])
    | some _ => none
  | key :: next :: rest, entries =>
    match entries.lookup key with
    | none =>
      (insert value (next :: rest) []).map fun sub => entries ++ [(key, .table .dotted sub)]
    | some (.table kind sub) =>
      if kind = .dotted ∨ (kind = .implied ∧ rest ≠ []) then
        (insert value (next :: rest) sub).map fun sub => replace key (.table kind sub) entries
      else none
    | some (.tables elements) =>
      if rest ≠ [] then
        (alterLast (insert value (next :: rest)) elements).map fun es => replace key (.tables es) entries
      else none
    | some _ => none

/-- Entries with the value of a header changed.  Tables on the way are implied by the header; one that was there must
not be closed, and of several under one header the last counts. -/
def alterAt (f : Option Node → Option Node) : List String → Entries → Option Entries
  | [], _ => none
  | [key], entries =>
    match entries.lookup key with
    | none => (f none).map fun n => entries ++ [(key, n)]
    | some old => (f (some old)).map fun n => replace key n entries
  | key :: next :: rest, entries =>
    match entries.lookup key with
    | none => (alterAt f (next :: rest) []).map fun sub => entries ++ [(key, .table .implied sub)]
    | some (.table kind sub) =>
      if kind = .closed then none
      else (alterAt f (next :: rest) sub).map fun sub => replace key (.table kind sub) entries
    | some (.tables elements) =>
      (alterLast (alterAt f (next :: rest)) elements).map fun es => replace key (.tables es) entries
    | some _ => none

/-- Entries with some more pairs. -/
def insertAll (pairs : List Pair) (entries : Entries) : Option Entries :=
  pairs.foldlM (fun entries p => insert p.value p.keys entries) entries

/-- The table of a header with its pairs.  Only a table that other headers passed through may be opened again. -/
def openTable (pairs : List Pair) : Option Node → Option Node
  | none => (insertAll pairs []).map (.table .header)
  | some (.table .implied entries) => (insertAll pairs entries).map (.table .header)
  | some _ => none

/-- The list of tables of a header with one more table. -/
def openElement (pairs : List Pair) : Option Node → Option Node
  | none => (insertAll pairs []).map fun e => .tables [e]
  | some (.tables elements) => (insertAll pairs []).map fun e => .tables (elements ++ [e])
  | some _ => none

/-- The pairs before the first header, and every header with the pairs after it. -/
def sections : List Line → List Pair × List (Line × List Pair)
  | [] => ([], [])
  | .pair p :: rest => (p :: (sections rest).1, (sections rest).2)
  | header :: rest => ([], (header, (sections rest).1) :: (sections rest).2)

/-- Entries of a document with one more header and its pairs. -/
def addSection (entries : Entries) : Line × List Pair → Option Entries
  | (.table keys, pairs) => alterAt (openTable pairs) keys entries
  | (.element keys, pairs) => alterAt (openElement pairs) keys entries
  | (.pair _, _) => none

/-- The table that a document writes. -/
def assemble (lines : List Line) : Option Entries := do
  let (pairs, headers) := sections lines
  headers.foldlM addSection (← insertAll pairs [])

end GuardedCrud.Toml
