import GuardedCrud.Numeral
import GuardedCrud.Toml.Node

/-!
# TOML numbers, dates and times

Each reader takes the whole text of one value.
-/

namespace GuardedCrud.Toml

/-- Digits with single underscores between them; gives the digits alone. -/
def ungroup? (isDigit : Char → Bool) : List Char → Option (List Char)
  | [] => none
  | [d] => if isDigit d then some [d] else none
  | d :: '_' :: rest => if isDigit d then (ungroup? isDigit rest).map (d :: ·) else none
  | d :: rest => if isDigit d then (ungroup? isDigit rest).map (d :: ·) else none

/-- Decimal digits without a leading zero, other than `0` itself. -/
def wholeDigits? (cs : List Char) : Option (List Char) :=
  match ungroup? Char.isDigit cs with
  | some ('0' :: _ :: _) => none
  | digits => digits

/-- A sign in front of a text, and the text after it. -/
def splitSign : List Char → Bool × List Char
  | '-' :: rest => (true, rest)
  | '+' :: rest => (false, rest)
  | cs => (false, cs)

/-- The number in a base that digits with underscores write. -/
def inBase? (base : Nat) (cs : List Char) : Option Nat :=
  (ungroup? (fun c => (Numeral.hexDigit? c).any (· < base)) cs).map fun digits =>
    digits.foldl (fun n d => base * n + (Numeral.hexDigit? d).getD 0) 0

/-- The integer that a text writes, if it has 64 bits. -/
def integer? (cs : List Char) : Option Int := do
  let n : Int ← match cs with
    | '0' :: 'x' :: digits => (inBase? 16 digits).map Int.ofNat
    | '0' :: 'o' :: digits => (inBase? 8 digits).map Int.ofNat
    | '0' :: 'b' :: digits => (inBase? 2 digits).map Int.ofNat
    | _ =>
      let (negative, digits) := splitSign cs
      (wholeDigits? digits).map fun ds =>
        if negative then -(Numeral.ofDigits ds : Int) else Numeral.ofDigits ds
  if -0x8000000000000000 ≤ n ∧ n < 0x8000000000000000 then some n else none

/-- The character is a digit or an underscore between digits. -/
def isDigitMark (c : Char) : Bool := c.isDigit || c == '_'

/-- The exponent that a text writes after its `e`. -/
def exponent? (cs : List Char) : Option Int :=
  let (negative, digits) := splitSign cs
  (ungroup? Char.isDigit digits).map fun ds =>
    if negative then -(Numeral.ofDigits ds : Int) else Numeral.ofDigits ds

/-- The fraction digits and the exponent of a float, of which one must be there. -/
def floatTail? : List Char → Option (List Char × Int)
  | '.' :: cs => do
    let fraction ← ungroup? Char.isDigit (cs.takeWhile isDigitMark)
    match cs.dropWhile isDigitMark with
    | [] => some (fraction, 0)
    | e :: rest => if e = 'e' ∨ e = 'E' then (exponent? rest).map fun x => (fraction, x) else none
  | e :: rest => if e = 'e' ∨ e = 'E' then (exponent? rest).map fun x => ([], x) else none
  | [] => none

/-- The text writes a float.  Positive numbers beyond the doubles are refused. -/
def isFloat (cs : List Char) : Bool :=
  let (negative, digits) := splitSign cs
  if digits = "inf".toList ∨ digits = "nan".toList then true
  else
    match wholeDigits? (digits.takeWhile isDigitMark), floatTail? (digits.dropWhile isDigitMark) with
    | some whole, some (fraction, exponent) =>
      negative || !Numeral.overflows (Numeral.ofDigits (whole ++ fraction)) (exponent - fraction.length)
    | _, _ => false

/-- The number that digits write, if there are only digits and it is within bounds. -/
def bounded? (least most : Nat) (digits : List Char) : Option Nat :=
  if digits.all Char.isDigit then
    let n := Numeral.ofDigits digits
    if least ≤ n ∧ n ≤ most then some n else none
  else none

/-- Days of a month. -/
def daysIn (year month : Nat) : Nat :=
  let leap := year % 4 = 0 ∧ (year % 100 ≠ 0 ∨ year % 400 = 0)
  if month = 2 then if leap then 29 else 28
  else if month = 4 ∨ month = 6 ∨ month = 9 ∨ month = 11 then 30
  else 31

/-- What follows a date at the front of a text. -/
def afterDate? : List Char → Option (List Char)
  | a :: b :: c :: d :: '-' :: m :: n :: '-' :: x :: y :: rest => do
    let year ← bounded? 0 9999 [a, b, c, d]
    let month ← bounded? 1 12 [m, n]
    let day ← bounded? 1 31 [x, y]
    if day ≤ daysIn year month then some rest else none
  | _ => none

/-- What follows the hour and its colon at the front of a text. -/
def afterHour? : List Char → Option (List Char)
  | a :: b :: ':' :: rest => (bounded? 0 23 [a, b]).map fun _ => rest
  | _ => none

/-- What follows a time at the front of a text; a leap second is allowed, and seconds may have a fraction. -/
def afterTime? (cs : List Char) : Option (List Char) :=
  match afterHour? cs with
  | some (m :: n :: ':' :: s :: t :: rest) => do
    let _ ← bounded? 0 59 [m, n]
    let _ ← bounded? 0 60 [s, t]
    match rest with
    | '.' :: d :: rest => if d.isDigit then some (rest.dropWhile Char.isDigit) else none
    | rest => some rest
  | _ => none

/-- The text is nothing, or the offset of a time from universal time. -/
def isOffset : List Char → Bool
  | [] => true
  | ['Z'] => true
  | ['z'] => true
  | [sign, a, b, ':', m, n] =>
    (sign == '+' || sign == '-') && (bounded? 0 23 [a, b]).isSome && (bounded? 0 59 [m, n]).isSome
  | _ => false

/-- The text writes a date, a time, or both with a `T` or a blank between them. -/
def isDatetime (cs : List Char) : Bool :=
  match afterDate? cs with
  | some [] => true
  | some (c :: rest) =>
    (c == 'T' || c == 't' || c == ' ') && (afterTime? rest).any isOffset
  | none => afterTime? cs == some []

/-- The text writes a date alone. -/
def isDate (cs : List Char) : Bool := afterDate? cs == some []

/-- The value of a text that is not quoted: a truth value, a date or time, a float or an integer. -/
def scalar? (cs : List Char) : Option Node :=
  if cs = "true".toList then some (.bool true)
  else if cs = "false".toList then some (.bool false)
  else if isDatetime cs then some (.datetime (String.ofList cs))
  else if isFloat cs then some (.float (String.ofList cs))
  else (integer? cs).map .integer

end GuardedCrud.Toml
