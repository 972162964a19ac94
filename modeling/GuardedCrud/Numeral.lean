/-!
# Decimal numerals and the range of doubles

Readers refuse a numeral that is too large for a double-precision number.  Such a number has 53 significant bits,
and the first power of two beyond its range is `2 ^ 1024`.
-/

namespace GuardedCrud.Numeral

/-- The natural number that decimal digits write. -/
def ofDigits (digits : List Char) : Nat :=
  digits.foldl (fun n d => 10 * n + (d.toNat - '0'.toNat)) 0

/-- The value of a hexadecimal digit. -/
def hexDigit? (c : Char) : Option Nat :=
  if '0' ≤ c ∧ c ≤ '9' then some (c.toNat - '0'.toNat)
  else if 'a' ≤ c ∧ c ≤ 'f' then some (c.toNat - 'a'.toNat + 10)
  else if 'A' ≤ c ∧ c ≤ 'F' then some (c.toNat - 'A'.toNat + 10)
  else none

/-- The natural number that hexadecimal digits write. -/
def ofHex? (digits : List Char) : Option Nat :=
  digits.foldlM (fun n d => (hexDigit? d).map (16 * n + ·)) 0

/-- A natural number rounded to 53 significant bits; a tie goes to the even neighbour. -/
def round53 (n : Nat) : Nat :=
  let unit := Nat.pow 2 (n.log2 - 52)
  let q := n / unit
  let r := n % unit
  (if unit < 2 * r || (2 * r == unit && q % 2 == 1) then q + 1 else q) * unit

/-- The product of a significand and a power of ten, each rounded first, is beyond the doubles. -/
def productOverflows (significand exponent : Nat) : Bool :=
  Nat.pow 2 1024 ≤ round53 (round53 significand * round53 (Nat.pow 10 exponent))

/-- A decimal number that rounds to infinity: it is at least half a unit beyond the largest double. -/
def overflows (significand : Nat) (exponent : Int) : Bool :=
  let limit := Nat.pow 2 1024 - Nat.pow 2 970
  match exponent with
  | .ofNat e => significand != 0 && (400 < e || limit ≤ significand * Nat.pow 10 e)
  | .negSucc e =>
    -- A significand below `10 ^ e` is a fraction, whatever its size.
    !(significand.log2 < 3 * e) && limit * Nat.pow 10 (e + 1) ≤ significand

/-- Take digits while the number they write stays below `2 ^ 64`; what it is, and the digits left. -/
def takeWord (n : Nat) : List Char → Nat × List Char
  | [] => (n, [])
  | d :: rest =>
    let m := 10 * n + (d.toNat - '0'.toNat)
    if m < 0x10000000000000000 then takeWord m rest else (n, d :: rest)

end GuardedCrud.Numeral
