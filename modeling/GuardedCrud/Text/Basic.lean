/-!
# Runs of code points, blanks and lines

Classes of characters are tables of runs in increasing order.  A look-up stops at the first run that begins beyond the
code point, so the common characters, which come first, are found at once.  White space of every script is one such
class.

A text is read as lines that end with a line feed.  A carriage return right before the line feed belongs to the line
end, and a text that ends with a line feed has no empty line after it.
-/

namespace GuardedCrud.Text

/-! ### Runs -/

/-- The code points `first`, `first + step`, `first + 2 * step`, … up to `last`. -/
structure Run where
  first : Nat
  last : Nat
  step : Nat

/-- The code point is one of the run. -/
def Run.contains (r : Run) (n : Nat) : Bool :=
  r.first ≤ n && n ≤ r.last && (n - r.first) % r.step == 0

/-- Some run of the table contains the code point; the runs stand in increasing order. -/
def Run.covers : List Run → Nat → Bool
  | [], _ => false
  | r :: rest, n => if n < r.first then false else r.contains n || Run.covers rest n

/-! ### Blanks -/

/-- Code points with the property `White_Space`. -/
def blankRuns : List Run := [
  ⟨0x09, 0x0D, 1⟩, ⟨0x20, 0x20, 1⟩, ⟨0x85, 0x85, 1⟩, ⟨0xA0, 0xA0, 1⟩, ⟨0x1680, 0x1680, 1⟩,
  ⟨0x2000, 0x200A, 1⟩, ⟨0x2028, 0x2029, 1⟩, ⟨0x202F, 0x202F, 1⟩, ⟨0x205F, 0x205F, 1⟩,
  ⟨0x3000, 0x3000, 1⟩]

/-- The character is white space. -/
def isBlank (c : Char) : Bool := Run.covers blankRuns c.toNat

/-- The text without the blanks it begins with. -/
def trimStart (cs : List Char) : List Char := cs.dropWhile isBlank

/-- The text without the blanks it ends with. -/
def trimEnd (cs : List Char) : List Char := (cs.reverse.dropWhile isBlank).reverse

/-- The text without the blanks around it. -/
def trim (cs : List Char) : List Char := trimEnd (trimStart cs)

/-! ### Lines -/

/-- A character put in front of the first of some pieces. -/
def consFirst (c : Char) : List (List Char) → List (List Char)
  | [] => [[c]]
  | piece :: pieces => (c :: piece) :: pieces

/-- The lines of a text, without their ends. -/
def lines : List Char → List (List Char)
  | [] => []
  | '\n' :: rest => [] :: lines rest
  | '\r' :: '\n' :: rest => [] :: lines rest
  | c :: rest => consFirst c (lines rest)

end GuardedCrud.Text
