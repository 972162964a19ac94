import GuardedCrud.Numeral

/-!
# Quoted texts in TOML

Texts stand in double quotes, with escapes, or in single quotes, as they are; three quotes allow several lines.  Each
reader takes what follows the opening quotes and gives the text and what stands after the closing ones.  Line ends in
a text are read as line feeds.
-/

namespace GuardedCrud.Toml

/-- The character may stand in a text or a comment as it is: no control character other than a tab. -/
def isPlain (c : Char) : Bool := c == '\t' || (0x20 ≤ c.toNat && c.toNat != 0x7F)

/-- The character of a one-letter escape. -/
def escape? : Char → Option Char
  | 'b' => some '\x08'
  | 't' => some '\t'
  | 'n' => some '\n'
  | 'f' => some '\x0c'
  | 'r' => some '\r'
  | '"' => some '"'
  | '\\' => some '\\'
  | _ => none

/-- The character of a hexadecimal code point. -/
def codePoint? (digits : List Char) : Option Char :=
  (Numeral.ofHex? digits).bind fun n => if n.isValidChar then some (Char.ofNat n) else none

/-- The character that an escape writes after its backslash, and what follows it. -/
def readEscape : List Char → Option (Char × List Char)
  | 'u' :: a :: b :: c :: d :: rest => (codePoint? [a, b, c, d]).map fun x => (x, rest)
  | 'U' :: a :: b :: c :: d :: e :: f :: g :: h :: rest =>
    (codePoint? [a, b, c, d, e, f, g, h]).map fun x => (x, rest)
  | c :: rest => (escape? c).map fun x => (x, rest)
  | [] => none

theorem readEscape_length {cs rest : List Char} {c : Char} (h : readEscape cs = some (c, rest)) :
    rest.length < cs.length := by
  unfold readEscape at h
  split at h
  · obtain ⟨x, -, ⟨⟩⟩ := Option.map_eq_some_iff.1 h
    simp only [List.length_cons]
    omega
  · obtain ⟨x, -, ⟨⟩⟩ := Option.map_eq_some_iff.1 h
    simp only [List.length_cons]
    omega
  · obtain ⟨x, -, ⟨⟩⟩ := Option.map_eq_some_iff.1 h
    simp only [List.length_cons]
    omega
  · simp at h

/-- A text in double quotes, on one line. -/
def readBasic (cs : List Char) : Option (List Char × List Char) :=
  match cs with
  | [] => none
  | '"' :: rest => some ([], rest)
  | '\\' :: rest =>
    match h : readEscape rest with
    | none => none
    | some (c, rest') =>
      have := readEscape_length h
      (readBasic rest').map fun (s, after) => (c :: s, after)
  | c :: rest =>
    if isPlain c then (readBasic rest).map fun (s, after) => (c :: s, after) else none
termination_by cs.length

/-- A text in single quotes, on one line. -/
def readLiteral : List Char → Option (List Char × List Char)
  | [] => none
  | '\'' :: rest => some ([], rest)
  | c :: rest =>
    if isPlain c then (readLiteral rest).map fun (s, after) => (c :: s, after) else none

/-- Up to two quotes after the three that close a text belong to it. -/
def closing (quote : Char) : List Char → List Char × List Char
  | a :: b :: rest =>
    if a = quote ∧ b = quote then ([quote, quote], rest)
    else if a = quote then ([quote], b :: rest)
    else ([], a :: b :: rest)
  | [a] => if a = quote then ([quote], []) else ([], [a])
  | [] => ([], [])

/-- Where a reader stands in a text of several lines. -/
inductive Fold
  /-- In the text. -/
  | text
  /-- After a backslash at the end of a line, before the line end. -/
  | beforeLineEnd
  /-- After that line end, in the blanks and line ends that do not count. -/
  | afterLineEnd
  deriving DecidableEq

/-- An order in which a place that only moves on comes after the others. -/
def Fold.rank : Fold → Nat
  | text => 0
  | beforeLineEnd => 1
  | afterLineEnd => 2

/-- A text in three double quotes.  A backslash at the end of a line takes the line end and all blanks after it out of
the text. -/
def readBasicLines (place : Fold) (cs : List Char) : Option (List Char × List Char) :=
  match place, cs with
  | .beforeLineEnd, ' ' :: rest => readBasicLines .beforeLineEnd rest
  | .beforeLineEnd, '\t' :: rest => readBasicLines .beforeLineEnd rest
  | .beforeLineEnd, '\n' :: rest => readBasicLines .afterLineEnd rest
  | .beforeLineEnd, '\r' :: '\n' :: rest => readBasicLines .afterLineEnd rest
  | .beforeLineEnd, _ => none
  | .afterLineEnd, ' ' :: rest => readBasicLines .afterLineEnd rest
  | .afterLineEnd, '\t' :: rest => readBasicLines .afterLineEnd rest
  | .afterLineEnd, '\n' :: rest => readBasicLines .afterLineEnd rest
  | .afterLineEnd, '\r' :: '\n' :: rest => readBasicLines .afterLineEnd rest
  | .afterLineEnd, rest => readBasicLines .text rest
  | .text, [] => none
  | .text, '"' :: '"' :: '"' :: rest => some (closing '"' rest)
  | .text, '\\' :: c :: rest =>
    if c = ' ' ∨ c = '\t' ∨ c = '\n' ∨ c = '\r' then readBasicLines .beforeLineEnd (c :: rest)
    else
      match h : readEscape (c :: rest) with
      | none => none
      | some (x, rest') =>
        have := readEscape_length h
        (readBasicLines .text rest').map fun (s, after) => (x :: s, after)
  | .text, '\r' :: '\n' :: rest => (readBasicLines .text rest).map fun (s, after) => ('\n' :: s, after)
  | .text, c :: rest =>
    if c ≠ '\\' ∧ (isPlain c ∨ c = '\n') then
      (readBasicLines .text rest).map fun (s, after) => (c :: s, after)
    else none
termination_by (cs.length, place.rank)
decreasing_by all_goals (simp_wf; simp only [Fold.rank, List.length_cons] at *; omega)

/-- A text in three single quotes. -/
def readLiteralLines : List Char → Option (List Char × List Char)
  | [] => none
  | '\'' :: '\'' :: '\'' :: rest => some (closing '\'' rest)
  | '\r' :: '\n' :: rest => (readLiteralLines rest).map fun (s, after) => ('\n' :: s, after)
  | c :: rest =>
    if isPlain c ∨ c = '\n' then (readLiteralLines rest).map fun (s, after) => (c :: s, after) else none

/-- A line end right after three opening quotes does not belong to the text. -/
def skipFirstLineEnd : List Char → List Char
  | '\n' :: rest => rest
  | '\r' :: '\n' :: rest => rest
  | cs => cs

/-- A quoted text on one line, from its opening quote. -/
def readLineText : List Char → Option (List Char × List Char)
  | '"' :: rest => readBasic rest
  | '\'' :: rest => readLiteral rest
  | _ => none

/-- A quoted text, from its opening quotes. -/
def readText : List Char → Option (List Char × List Char)
  | '"' :: '"' :: '"' :: rest => readBasicLines .text (skipFirstLineEnd rest)
  | '\'' :: '\'' :: '\'' :: rest => readLiteralLines (skipFirstLineEnd rest)
  | cs => readLineText cs

end GuardedCrud.Toml
