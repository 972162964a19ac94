import GuardedCrud.Json.Value
import GuardedCrud.Numeral

/-!
# Reading a JSON value from the front of a text

`readValue depth` reads one value, in which containers nest at most `depth` deep, and gives the text after it.
What follows the value is not looked at: an object, a list or a string shows its own end.
-/

namespace GuardedCrud.Json

/-- The four blanks between JSON tokens. -/
def isBlank (c : Char) : Bool := c == ' ' || c == '\t' || c == '\n' || c == '\r'

/-- The text without the blanks it begins with. -/
def skipBlanks (cs : List Char) : List Char := cs.dropWhile isBlank

/-- The number that four hexadecimal digits write. -/
def hex4? (a b c d : Char) : Option Nat :=
  Numeral.ofHex? [a, b, c, d]

/-- The character of a one-letter escape. -/
def escape? : Char → Option Char
  | '"' => some '"'
  | '\\' => some '\\'
  | '/' => some '/'
  | 'b' => some '\x08'
  | 'f' => some '\x0c'
  | 'n' => some '\n'
  | 'r' => some '\r'
  | 't' => some '\t'
  | _ => none

/-- The text of a string and what follows it, from after its opening quote.  Control characters must be escaped,
and halves of a surrogate pair must come together. -/
def readString : List Char → Option (List Char × List Char)
  | [] => none
  | '"' :: rest => some ([], rest)
  | '\\' :: 'u' :: a :: b :: c :: d :: rest =>
    (hex4? a b c d).bind fun n =>
      if n < 0xD800 ∨ 0xE000 ≤ n then
        (readString rest).map fun (s, after) => (Char.ofNat n :: s, after)
      else if 0xDC00 ≤ n then none
      else match rest with
        | '\\' :: 'u' :: e :: f :: g :: h :: rest =>
          (hex4? e f g h).bind fun low =>
            if 0xDC00 ≤ low ∧ low < 0xE000 then
              (readString rest).map fun (s, after) =>
                (Char.ofNat (0x10000 + (n - 0xD800) * 0x400 + (low - 0xDC00)) :: s, after)
            else none
        | _ => none
  | '\\' :: c :: rest =>
    (escape? c).bind fun e => (readString rest).map fun (s, after) => (e :: s, after)
  | c :: rest =>
    if c.toNat < 0x20 then none
    else (readString rest).map fun (s, after) => (c :: s, after)

/-- Digits at the front of a text, and the rest. -/
def digits (cs : List Char) : List Char × List Char := cs.span Char.isDigit

/-- The parts of a number: whole digits, fraction digits and exponent. -/
structure NumberParts where
  whole : List Char
  fraction : List Char
  exponentNegative : Bool
  exponent : List Char

/-- The number is one of the doubles.  Digits beyond 64 bits only scale a whole number and do not count in a
fraction. -/
def NumberParts.inRange (p : NumberParts) : Bool :=
  let (n, wholeLeft) := Numeral.takeWord 0 p.whole
  let (n, fractionLeft) := Numeral.takeWord n p.fraction
  let written : Int := Numeral.ofDigits p.exponent
  let exponent : Int :=
    (wholeLeft.length : Int) - ((p.fraction.length - fractionLeft.length : Nat) : Int) +
      (if p.exponentNegative then -written else written)
  match exponent with
  | .ofNat e => n == 0 || (e ≤ 308 && !Numeral.productOverflows n e)
  | .negSucc _ => true

/-- Whole digits of a number: `0`, or digits that do not begin with `0`. -/
def readWhole (cs : List Char) : Option (List Char × List Char) :=
  match digits cs with
  | ([], _) => none
  | (['0'], rest) => some (['0'], rest)
  | ('0' :: _, _) => none
  | (ds, rest) => some (ds, rest)

/-- The fraction of a number, if it has one: a point and at least one digit. -/
def readFraction : List Char → Option (List Char × List Char)
  | '.' :: cs =>
    match digits cs with
    | ([], _) => none
    | (ds, rest) => some (ds, rest)
  | cs => some ([], cs)

/-- The exponent of a number, if it has one: `e` or `E`, perhaps a sign, and at least one digit. -/
def readExponent : List Char → Option (Bool × List Char × List Char)
  | c :: cs =>
    if c = 'e' ∨ c = 'E' then
      let (negative, cs) := match cs with
        | '-' :: rest => (true, rest)
        | '+' :: rest => (false, rest)
        | rest => (false, rest)
      match digits cs with
      | ([], _) => none
      | (ds, rest) => some (negative, ds, rest)
    else some (false, [], c :: cs)
  | [] => some (false, [], [])

/-- The text of a number and what follows it. -/
def readNumber (cs : List Char) : Option (List Char × List Char) := do
  let unsigned := match cs with
    | '-' :: rest => rest
    | rest => rest
  let (whole, rest) ← readWhole unsigned
  let (fraction, rest) ← readFraction rest
  let (exponentNegative, exponent, rest) ← readExponent rest
  if NumberParts.inRange { whole, fraction, exponentNegative, exponent } then
    some (cs.take (cs.length - rest.length), rest)
  else none

/-- A value that is not a container, and what follows it. -/
def readScalar : List Char → Option (Value × List Char)
  | 'n' :: 'u' :: 'l' :: 'l' :: rest => some (.null, rest)
  | 't' :: 'r' :: 'u' :: 'e' :: rest => some (.bool true, rest)
  | 'f' :: 'a' :: 'l' :: 's' :: 'e' :: rest => some (.bool false, rest)
  | '"' :: rest => (readString rest).map fun (s, after) => (.string (String.ofList s), after)
  | cs => (readNumber cs).map fun (text, after) => (.number (String.ofList text), after)

/-- The elements of a list that has some, up to its closing bracket.  Every element takes at least one character. -/
def readItems (read : List Char → Option (Value × List Char)) (cs : List Char) :
    Option (List Value × List Char) :=
  match read (skipBlanks cs) with
  | none => none
  | some (v, rest) =>
    match skipBlanks rest with
    | ',' :: rest =>
      if rest.length < cs.length then
        (readItems read rest).map fun (vs, after) => (v :: vs, after)
      else none
    | ']' :: rest => some ([v], rest)
    | _ => none
termination_by cs.length

/-- The key of a member with the colon after it, and what follows. -/
def readKey (cs : List Char) : Option (String × List Char) :=
  match skipBlanks cs with
  | '"' :: rest =>
    (readString rest).bind fun (key, rest) =>
      match skipBlanks rest with
      | ':' :: rest => some (String.ofList key, rest)
      | _ => none
  | _ => none

/-- The members of an object that has some, up to its closing brace.  Every member takes at least one character. -/
def readMembers (read : List Char → Option (Value × List Char)) (cs : List Char) :
    Option (List (String × Value) × List Char) :=
  match readKey cs with
  | none => none
  | some (key, rest) =>
    match read (skipBlanks rest) with
    | none => none
    | some (v, rest) =>
      match skipBlanks rest with
      | ',' :: rest =>
        if rest.length < cs.length then
          (readMembers read rest).map fun (ms, after) => ((key, v) :: ms, after)
        else none
      | '}' :: rest => some ([(key, v)], rest)
      | _ => none
termination_by cs.length

/-- A value whose containers nest at most `depth` deep, and what follows it. -/
def readValue : Nat → List Char → Option (Value × List Char)
  | 0, cs => readScalar cs
  | depth + 1, cs =>
    match cs with
    | '[' :: rest =>
      match skipBlanks rest with
      | ']' :: after => some (.array [], after)
      | _ => (readItems (readValue depth) rest).map fun (vs, after) => (.array vs, after)
    | '{' :: rest =>
      match skipBlanks rest with
      | '}' :: after => some (.object [], after)
      | _ => (readMembers (readValue depth) rest).map fun (ms, after) => (.object ms, after)
    | cs => readScalar cs

/-- How deep containers may nest. -/
def nestingLimit : Nat := 127

/-- What may follow a number or a word without a blank. -/
def endsToken : List Char → Bool
  | [] => true
  | c :: _ => isBlank c || c ∈ ['"', '[', ']', '{', '}', ',', ':']

/-- The value at the front of a text that begins with no blank.  A number or a word must end there. -/
def readLeading (cs : List Char) : Option Value :=
  match readValue nestingLimit cs with
  | some (v, rest) => if v.isDelimited || endsToken rest then some v else none
  | none => none

end GuardedCrud.Json
