import GuardedCrud.Diagnostics
import GuardedCrud.Text.Basic
import GuardedCrud.Text.Numeric

/-!
# From text to tokens

`lexeme` looks at one character and what follows it and says what stands there; `scanFrom` goes on until the text
ends.  White space and `//` comments separate tokens, and `///` comments are tokens of their own.  Every lexeme
takes at least its first character (`lexeme_length`), so scanning ends.
-/

namespace GuardedCrud.Schema

open GuardedCrud.Text

/-- What stands at the front of a text. -/
inductive Lexeme
  /-- White space or an ordinary comment. -/
  | gap
  | token (t : Token)
  /-- A quoted text that its line does not close. -/
  | unclosed
  /-- A character that begins no token. -/
  | stray
  deriving DecidableEq, Repr

/-- The bracket or mark that a character writes on its own. -/
def punctuation? : Char → Option Token
  | '\x7b' => some (.opening .brace)
  | '\x7d' => some (.closing .brace)
  | '(' => some (.opening .paren)
  | ')' => some (.closing .paren)
  | '[' => some (.opening .square)
  | ']' => some (.closing .square)
  | ',' => some (.mark .comma)
  | ':' => some (.mark .colon)
  | '?' => some (.mark .question)
  | '=' => some (.mark .equals)
  | '.' => some (.mark .dot)
  | _ => none

/-- The character begins a name. -/
def startsName (c : Char) : Bool := isAlphabetic c || c == '_'

/-- The character goes on with a name. -/
def continuesName (c : Char) : Bool := isAlphanumeric c || c == '_'

/-- The character, with what follows it, begins a number. -/
def startsNumber (c : Char) (rest : List Char) : Bool :=
  isAsciiDigit c || (c == '-' && rest.head?.any isAsciiDigit)

/-- The character goes on with a number. -/
def continuesNumber (c : Char) : Bool := isAlphanumeric c || c == '.' || c == '_'

/-- The character stands on the line, and is not its end. -/
def onLine (c : Char) : Bool := c != '\n'

/-- A quoted text and what follows it, from after its opening quote.  A backslash takes the next character with it,
whatever that is; a line that ends first leaves the text unclosed. -/
def readQuoted : List Char → Option (List Char × List Char)
  | [] => none
  | '"' :: rest => some ([], rest)
  | '\\' :: c :: rest => (readQuoted rest).map fun (s, after) => ('\\' :: c :: s, after)
  | c :: rest =>
    if c = '\n' then none
    else (readQuoted rest).map fun (s, after) => (c :: s, after)

/-- What stands at the front of `c :: cs`, and the text after it. -/
def lexeme (c : Char) (cs : List Char) : Lexeme × List Char :=
  if isBlank c then (.gap, cs)
  else if c = '/' then
    match cs with
    | '/' :: '/' :: rest =>
      (.token (.doc (String.ofList (trim (rest.takeWhile onLine)))), rest.dropWhile onLine)
    | '/' :: rest => (.gap, rest.dropWhile onLine)
    | rest => (.stray, rest)
  else if c = '"' then
    match readQuoted cs with
    | some (content, rest) => (.token (.quoted (String.ofList content)), rest)
    | none => (.unclosed, cs)
  else if c = '@' then
    match cs with
    | '@' :: rest => (.token (.mark .doubleAt), rest)
    | rest => (.token (.mark .at), rest)
  else match punctuation? c with
    | some t => (.token t, cs)
    | none =>
      if startsName c then
        (.token (.ident (String.ofList (c :: cs.takeWhile continuesName))), cs.dropWhile continuesName)
      else if startsNumber c cs then
        (.token (.number (String.ofList (c :: cs.takeWhile continuesNumber))),
          cs.dropWhile continuesNumber)
      else (.stray, cs)

private theorem length_dropWhile_le (p : Char → Bool) (cs : List Char) :
    (cs.dropWhile p).length ≤ cs.length :=
  (List.dropWhile_suffix p).length_le

private theorem readQuoted_length {cs s rest : List Char} (h : readQuoted cs = some (s, rest)) :
    rest.length < cs.length := by
  fun_induction readQuoted cs generalizing s rest with
  | case1 => simp at h
  | case2 r => grind
  | case3 c r ih =>
    obtain ⟨⟨s', r'⟩, h', e⟩ := Option.map_eq_some_iff.1 h
    have := ih h'
    grind
  | case4 => simp at h
  | case5 c r _ _ _ ih =>
    obtain ⟨⟨s', r'⟩, h', e⟩ := Option.map_eq_some_iff.1 h
    have := ih h'
    grind

/-- A lexeme takes at least its first character. -/
theorem lexeme_length (c : Char) (cs : List Char) : (lexeme c cs).2.length ≤ cs.length := by
  have hd := length_dropWhile_le
  unfold lexeme
  split
  · exact Nat.le_refl _
  split
  · split
    · rename_i rest
      have := hd onLine rest
      simp only [List.length_cons]
      omega
    · rename_i rest _
      have := hd onLine rest
      simp only [List.length_cons]
      omega
    · exact Nat.le_refl _
  split
  · split
    · rename_i h
      exact Nat.le_of_lt (readQuoted_length h)
    · exact Nat.le_refl _
  split
  · split <;> simp
  split
  · exact Nat.le_refl _
  split
  · exact hd _ _
  split
  · exact hd _ _
  · exact Nat.le_refl _

/-- The tokens of a text whose first character stands on the given line. -/
def scanFrom (line : Nat) : List Char → Except Fault (List Placed)
  | [] => .ok []
  | c :: cs =>
    have := lexeme_length c cs
    match h : lexeme c cs with
    | (.gap, rest) => scanFrom (if c = '\n' then line + 1 else line) rest
    | (.token t, rest) =>
      match scanFrom line rest with
      | .ok ts => .ok (⟨t, line⟩ :: ts)
      | .error e => .error e
    | (.unclosed, _) => .error (.unterminatedText line)
    | (.stray, _) => .error (.unexpectedChar line c)
termination_by cs => cs.length
decreasing_by all_goals (simp only [h] at this; simp only [List.length_cons]; omega)

/-- The tokens of a schema text. -/
def scan (source : String) : Except Fault (List Placed) := scanFrom 1 source.toList

end GuardedCrud.Schema
