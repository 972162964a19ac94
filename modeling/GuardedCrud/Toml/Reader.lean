import GuardedCrud.Toml.Scalar
import GuardedCrud.Toml.Table
import GuardedCrud.Toml.Text

/-!
# Reading TOML

A document is read line by line, then its lines are put into tables.  Loops end because every step takes at least
one character, and values nest less than 80 deep.
-/

namespace GuardedCrud.Toml

/-- The text without the blanks and tabs it begins with. -/
def skipSpace (cs : List Char) : List Char := cs.dropWhile fun c => c == ' ' || c == '\t'

/-- The character may stand in a key without quotes. -/
def isBareKey (c : Char) : Bool := c.isAlphanum || c == '-' || c == '_'

/-- One part of a dotted key, quoted or bare. -/
def readKeyPart (cs : List Char) : Option (String × List Char) :=
  match cs.takeWhile isBareKey with
  | [] => (readLineText cs).map fun (s, rest) => (String.ofList s, rest)
  | key => some (String.ofList key, cs.dropWhile isBareKey)

/-- The parts of a dotted key, with blanks around them. -/
def readKeyParts (cs : List Char) : Option (List String × List Char) :=
  match readKeyPart (skipSpace cs) with
  | none => none
  | some (key, rest) =>
    match skipSpace rest with
    | '.' :: rest =>
      if rest.length < cs.length then (readKeyParts rest).map fun (keys, after) => (key :: keys, after)
      else none
    | rest => some ([key], rest)
termination_by cs.length

/-- How many containers, or parts of a dotted key, are one in the other at least in a document that is refused. -/
def nestingLimit : Nat := 80

/-- A dotted key. -/
def readKeys (cs : List Char) : Option (List String × List Char) :=
  (readKeyParts cs).bind fun (keys, rest) => if keys.length < nestingLimit then some (keys, rest) else none

/-- Blanks, comments and line ends between the elements of a list. -/
def skipGaps (inComment : Bool) : List Char → Option (List Char)
  | [] => if inComment then none else some []
  | '\n' :: rest => skipGaps false rest
  | '\r' :: '\n' :: rest => skipGaps false rest
  | c :: rest =>
    if inComment then if isPlain c then skipGaps true rest else none
    else if c = ' ' ∨ c = '\t' then skipGaps false rest
    else if c = '#' then skipGaps true rest
    else if c = '\r' then none
    else some (c :: rest)

/-- The character ends a value that is not quoted. -/
def endsWord (c : Char) : Bool := c ∈ [' ', '\t', '\n', '\r', '#', ',', ']', '\x7d']

/-- The text up to where a value that is not quoted ends, and the rest. -/
def splitWord (cs : List Char) : List Char × List Char := cs.span fun c => !endsWord c

/-- A value that is not quoted.  A date may have a time after one blank. -/
def readScalar (cs : List Char) : Option (Node × List Char) :=
  let (word, rest) := splitWord cs
  let withTime := match rest with
    | ' ' :: more =>
      let (time, after) := splitWord more
      if isDate word ∧ (afterHour? time).isSome then some (word ++ ' ' :: time, after) else none
    | _ => none
  match withTime with
  | some (both, after) => (scalar? both).map fun n => (n, after)
  | none => (scalar? word).map fun n => (n, rest)

/-- The elements of a list up to its closing bracket.  A comma may stand after the last one. -/
def readItems (read : List Char → Option (Node × List Char)) (cs : List Char) : Option (List Node × List Char) :=
  match skipGaps false cs with
  | none => none
  | some (']' :: rest) => some ([], rest)
  | some rest =>
    match read rest with
    | none => none
    | some (n, rest) =>
      match skipGaps false rest with
      | some (',' :: rest) =>
        if rest.length < cs.length then (readItems read rest).map fun (ns, after) => (n :: ns, after)
        else none
      | some (']' :: rest) => some ([n], rest)
      | _ => none
termination_by cs.length

/-- A dotted key and its value. -/
def readPair (read : List Char → Option (Node × List Char)) (cs : List Char) : Option (Pair × List Char) :=
  (readKeys cs).bind fun (keys, rest) =>
    match rest with
    | '=' :: rest => (read (skipSpace rest)).map fun (n, after) => (⟨keys, n⟩, after)
    | _ => none

/-- The pairs of a table in braces that has some, up to its closing brace. -/
def readPairs (read : List Char → Option (Node × List Char)) (cs : List Char) : Option (List Pair × List Char) :=
  match readPair read cs with
  | none => none
  | some (p, rest) =>
    match skipSpace rest with
    | ',' :: rest =>
      if rest.length < cs.length then (readPairs read rest).map fun (ps, after) => (p :: ps, after)
      else none
    | '\x7d' :: rest => some ([p], rest)
    | _ => none
termination_by cs.length

/-- A quoted text as a value. -/
def readTextNode (cs : List Char) : Option (Node × List Char) :=
  (readText cs).map fun (s, after) => (.text (String.ofList s), after)

/-- A value that is not a container. -/
def readSimple : List Char → Option (Node × List Char)
  | '"' :: rest => readTextNode ('"' :: rest)
  | '\'' :: rest => readTextNode ('\'' :: rest)
  | cs => readScalar cs

/-- A value whose containers nest at most `depth` deep. -/
def readNode : Nat → List Char → Option (Node × List Char)
  | 0, cs => readSimple cs
  | depth + 1, cs =>
    match cs with
    | '[' :: rest => (readItems (readNode depth) rest).map fun (ns, after) => (.array ns, after)
    | '\x7b' :: rest =>
      match skipSpace rest with
      | '\x7d' :: after => some (.table .closed [], after)
      | _ =>
        (readPairs (readNode depth) rest).bind fun (ps, after) =>
          (insertAll ps []).map fun entries => (.table .closed entries, after)
    | cs => readSimple cs

/-- A value of a document. -/
def readValue (cs : List Char) : Option (Node × List Char) := readNode (nestingLimit - 1) cs

/-- The end of a line that says no more: blanks, perhaps a comment, and the line end or the end of the text. -/
def skipLineEnd (cs : List Char) : Option (List Char) :=
  let rest := match skipSpace cs with
    | '#' :: comment => comment.dropWhile isPlain
    | rest => rest
  match rest with
  | [] => some []
  | '\n' :: rest => some rest
  | '\r' :: '\n' :: rest => some rest
  | _ => none

/-- A line of a document, from its first character that is not blank; none in it for a line that says nothing. -/
def readLine : List Char → Option (Option Line × List Char)
  | '[' :: '[' :: rest =>
    (readKeys rest).bind fun (keys, rest) =>
      match rest with
      | ']' :: ']' :: rest => (skipLineEnd rest).map fun after => (some (.element keys), after)
      | _ => none
  | '[' :: rest =>
    (readKeys rest).bind fun (keys, rest) =>
      match rest with
      | ']' :: rest => (skipLineEnd rest).map fun after => (some (.table keys), after)
      | _ => none
  | c :: rest =>
    if c = '#' ∨ c = '\n' ∨ c = '\r' then (skipLineEnd (c :: rest)).map fun after => (none, after)
    else
      (readPair readValue (c :: rest)).bind fun (p, rest) =>
        (skipLineEnd rest).map fun after => (some (.pair p), after)
  | [] => some (none, [])

/-- The lines of a document that say something. -/
def readLines (cs : List Char) : Option (List Line) :=
  match cs with
  | [] => some []
  | cs =>
    match readLine (skipSpace cs) with
    | none => none
    | some (line, rest) =>
      if rest.length < cs.length then (readLines rest).map fun lines => line.toList ++ lines
      else none
termination_by cs.length

/-- The text without a byte order mark. -/
def skipByteOrderMark : List Char → List Char
  | c :: rest => if c.toNat = 0xFEFF then rest else c :: rest
  | [] => []

/-- The table that a text writes. -/
def ofText? (text : String) : Option Node :=
  ((readLines (skipByteOrderMark text.toList)).bind assemble).map (.table .header)

end GuardedCrud.Toml
