import Mathlib.Data.List.Basic
import Mathlib.Data.List.TakeDrop
import Mathlib.Data.List.TakeWhile
import GuardedCrud.Json.Reader

/-!
# Texts of JSON values

The grammar of JSON texts (`IsJson`), whatever their depth and their numbers, and what the reader makes of them.  It
refuses some of them (`readValue` limits the depth and the numbers, and halves of surrogate pairs must come together),
but it gives the same answer whatever follows the text (`IsJson.alike`).  Only a number needs an end: behind it must
stand a blank, a comma or a closing bracket.
-/

namespace GuardedCrud.Json

/-! ### The grammar -/

/-- Blanks between tokens. -/
def IsBlanks (cs : List Char) : Prop := ∀ c ∈ cs, isBlank c = true

/-- What may stand between the quotes of a string. -/
inductive IsStringBody : List Char → Prop
  | nil : IsStringBody []
  | plain {c : Char} {cs : List Char} (hc : 0x20 ≤ c.toNat) (hquote : c ≠ '"') (hbackslash : c ≠ '\\')
      (h : IsStringBody cs) : IsStringBody (c :: cs)
  | escape {c : Char} {cs : List Char} (hc : c ∈ ['"', '\\', '/', 'b', 'f', 'n', 'r', 't']) (h : IsStringBody cs) :
      IsStringBody ('\\' :: c :: cs)
  | unicode {a b c d : Char} {cs : List Char} (hhex : ∀ x ∈ [a, b, c, d], (Numeral.hexDigit? x).isSome = true)
      (h : IsStringBody cs) : IsStringBody ('\\' :: 'u' :: a :: b :: c :: d :: cs)

/-- Decimal digits, at least one. -/
def IsDigits (ds : List Char) : Prop := ds ≠ [] ∧ ∀ d ∈ ds, d.isDigit = true

/-- The whole digits of a number. -/
inductive IsWhole : List Char → Prop
  | zero : IsWhole ['0']
  | digits {d : Char} {ds : List Char} (hd : d ≠ '0') (h : IsDigits (d :: ds)) : IsWhole (d :: ds)

/-- The fraction of a number, or nothing. -/
inductive IsFraction : List Char → Prop
  | none : IsFraction []
  | digits {ds : List Char} (h : IsDigits ds) : IsFraction ('.' :: ds)

/-- The exponent of a number, or nothing. -/
inductive IsExponent : List Char → Prop
  | none : IsExponent []
  | digits {e : Char} {sign ds : List Char} (he : e = 'e' ∨ e = 'E')
      (hsign : sign = [] ∨ sign = ['-'] ∨ sign = ['+']) (h : IsDigits ds) : IsExponent (e :: (sign ++ ds))

/-- A number. -/
inductive IsNumber : List Char → Prop
  | mk {sign whole fraction exponent : List Char} (hsign : sign = [] ∨ sign = ['-']) (hw : IsWhole whole)
      (hf : IsFraction fraction) (he : IsExponent exponent) : IsNumber (sign ++ (whole ++ (fraction ++ exponent)))

/-- The forms of texts: an item is a value with blanks around it, and a member an item behind its key. -/
inductive Form
  | object
  | value
  | item
  | items
  | member
  | members

/-- The text has the form. -/
inductive IsJson : Form → List Char → Prop
  | emptyObject {bl : List Char} (hb : IsBlanks bl) : IsJson .object ('\x7b' :: (bl ++ ['\x7d']))
  | object {cs : List Char} (h : IsJson .members cs) : IsJson .object ('\x7b' :: (cs ++ ['\x7d']))
  | ofObject {cs : List Char} (h : IsJson .object cs) : IsJson .value cs
  | emptyArray {bl : List Char} (hb : IsBlanks bl) : IsJson .value ('[' :: (bl ++ [']']))
  | array {cs : List Char} (h : IsJson .items cs) : IsJson .value ('[' :: (cs ++ [']']))
  | null : IsJson .value ['n', 'u', 'l', 'l']
  | true : IsJson .value ['t', 'r', 'u', 'e']
  | false : IsJson .value ['f', 'a', 'l', 's', 'e']
  | string {s : List Char} (h : IsStringBody s) : IsJson .value ('"' :: (s ++ ['"']))
  | number {cs : List Char} (h : IsNumber cs) : IsJson .value cs
  | item {bl cs bl' : List Char} (hb : IsBlanks bl) (h : IsJson .value cs) (hb' : IsBlanks bl') :
      IsJson .item (bl ++ (cs ++ bl'))
  | lastItem {cs : List Char} (h : IsJson .item cs) : IsJson .items cs
  | moreItems {cs rest : List Char} (h : IsJson .item cs) (hr : IsJson .items rest) : IsJson .items (cs ++ ',' :: rest)
  | member {bl s bl' cs : List Char} (hb : IsBlanks bl) (hs : IsStringBody s) (hb' : IsBlanks bl')
      (h : IsJson .item cs) : IsJson .member (bl ++ '"' :: (s ++ '"' :: (bl' ++ ':' :: cs)))
  | lastMember {cs : List Char} (h : IsJson .member cs) : IsJson .members cs
  | moreMembers {cs rest : List Char} (h : IsJson .member cs) (hr : IsJson .members rest) :
      IsJson .members (cs ++ ',' :: rest)

theorem IsStringBody.of_plain {cs : List Char}
    (h : cs.all fun c => decide (0x20 ≤ c.toNat) && c != '"' && c != '\\') : IsStringBody cs := by
  induction cs with
  | nil => exact .nil
  | cons c cs ih =>
    simp only [List.all_cons, Bool.and_eq_true, decide_eq_true_eq, bne_iff_ne] at h
    obtain ⟨⟨⟨hc, hquote⟩, hbackslash⟩, hcs⟩ := h
    exact .plain hc hquote hbackslash (ih hcs)

/-! ### Texts that are read alike -/

/-- The reader gives the same answer on the text whatever follows it, and leaves what follows. -/
def ReadsAlike {α : Type} (ends : List Char → Prop) (read : List Char → Option (α × List Char)) (cs : List Char) :
    Prop :=
  ∃ answer : Option α, ∀ rest, ends rest → read (cs ++ rest) = answer.map fun a => (a, rest)

/-- What may stand behind a number. -/
def EndsNumber (rest : List Char) : Prop := ∀ c ∈ rest.head?, isBlank c = true ∨ c = ',' ∨ c = ']' ∨ c = '}'

/-- What may stand behind a value and the blanks around it. -/
def EndsItem (rest : List Char) : Prop := ∀ c ∈ rest.head?, c = ',' ∨ c = ']' ∨ c = '}'

/-- Anything may follow. -/
def Anything (_ : List Char) : Prop := True

section

variable {cs rest bl : List Char} {c : Char}

private theorem skipBlanks_append (hb : IsBlanks bl) (cs : List Char) : skipBlanks (bl ++ cs) = skipBlanks cs :=
  List.dropWhile_append_of_pos hb

theorem skipBlanks_cons (hc : isBlank c = false) (cs : List Char) : skipBlanks (c :: cs) = c :: cs := by
  simp [skipBlanks, hc]

theorem EndsItem.skipBlanks (h : EndsItem rest) : skipBlanks rest = rest := by
  cases rest with
  | nil => rfl
  | cons c rest =>
    apply skipBlanks_cons
    rcases h c rfl with rfl | rfl | rfl <;> decide

private theorem EndsItem.endsNumber (h : EndsItem rest) (hb : IsBlanks bl) : EndsNumber (bl ++ rest) := by
  intro c hc
  cases bl with
  | nil => exact Or.inr (h c hc)
  | cons b bl =>
    obtain rfl : b = c := Option.some.inj hc
    exact Or.inl (hb b (by simp))

/-! ### Numbers -/

private theorem digits_append {ds : List Char} (hds : ∀ d ∈ ds, d.isDigit = true)
    (hrest : ∀ c ∈ rest.head?, c.isDigit = false) : digits (ds ++ rest) = (ds, rest) := by
  have htail : rest.takeWhile Char.isDigit = [] ∧ rest.dropWhile Char.isDigit = rest := by
    cases rest with
    | nil => simp
    | cons c rest =>
      have := hrest c rfl
      simp [this]
  rw [digits, List.span_eq_takeWhile_dropWhile, List.takeWhile_append_of_pos hds, List.dropWhile_append_of_pos hds,
    htail.1, htail.2, List.append_nil]

private theorem readWhole_append {whole : List Char} (h : IsWhole whole) (hrest : ∀ c ∈ rest.head?, c.isDigit = false) :
    readWhole (whole ++ rest) = some (whole, rest) := by
  cases h with
  | zero =>
    have hdigits : digits (['0'] ++ rest) = (['0'], rest) := digits_append (List.all_eq_true.1 (by decide)) hrest
    rw [readWhole, hdigits]
    rfl
  | @digits d ds hd h =>
    rw [readWhole, digits_append h.2 hrest]
    split
    · rename_i heq
      cases heq
    · rename_i heq
      cases heq
      exact absurd rfl hd
    · rename_i heq
      cases heq
      exact absurd rfl hd
    · rename_i heq
      cases heq
      rfl

private theorem readFraction_append {fraction : List Char} (h : IsFraction fraction)
    (hrest : ∀ c ∈ rest.head?, c.isDigit = false ∧ c ≠ '.') :
    readFraction (fraction ++ rest) = some (fraction.tail, rest) := by
  cases h with
  | none =>
    rw [List.nil_append, readFraction]
    · rfl
    · rintro cs rfl
      exact (hrest '.' rfl).2 rfl
  | digits h =>
    rw [List.cons_append, readFraction, digits_append h.2 fun c hc => (hrest c hc).1]
    have hne := h.1
    split
    · rename_i heq
      cases heq
      exact absurd rfl hne
    · rename_i heq
      cases heq
      rfl

private theorem readExponent_append {exponent : List Char} (h : IsExponent exponent) :
    ∃ negative ds, ∀ rest : List Char, (∀ c ∈ rest.head?, c.isDigit = false ∧ c ≠ 'e' ∧ c ≠ 'E') →
      readExponent (exponent ++ rest) = some (negative, ds, rest) := by
  cases h with
  | none =>
    refine ⟨Bool.false, [], fun rest hrest => ?_⟩
    cases rest with
    | nil => rfl
    | cons c rest =>
      obtain ⟨-, he, hE⟩ := hrest c rfl
      have hne : ¬ (c = 'e' ∨ c = 'E') := not_or.2 ⟨he, hE⟩
      simp [readExponent, hne]
  | @digits e sign ds he hsign h =>
    refine ⟨decide (sign = ['-']), ds, fun rest hrest => ?_⟩
    have hdigits : digits (ds ++ rest) = (ds, rest) := digits_append h.2 fun c hc => (hrest c hc).1
    obtain ⟨d, ds, rfl⟩ := List.exists_cons_of_ne_nil h.1
    have hd : d.isDigit = Bool.true := h.2 d (by simp)
    rcases hsign with rfl | rfl | rfl
    · -- the first digit is no sign
      have hminus : d ≠ '-' := by rintro rfl; cases hd
      have hplus : d ≠ '+' := by rintro rfl; cases hd
      rw [List.cons_append] at hdigits
      simp [readExponent, he, hdigits, hminus, hplus]
    · rw [List.cons_append] at hdigits
      simp [readExponent, he, hdigits]
    · rw [List.cons_append] at hdigits
      simp [readExponent, he, hdigits]

private theorem EndsNumber.apart (h : EndsNumber rest) :
    ∀ c ∈ rest.head?, c.isDigit = Bool.false ∧ c ≠ '.' ∧ c ≠ 'e' ∧ c ≠ 'E' := by
  intro c hc
  rcases h c hc with hb | rfl | rfl | rfl
  · simp only [isBlank, Bool.or_eq_true, beq_iff_eq] at hb
    rcases hb with ((rfl | rfl) | rfl) | rfl <;> decide
  all_goals decide

private theorem head?_append_of_forall {p : Char → Prop} {cs rest : List Char} (hcs : ∀ c ∈ cs.head?, p c)
    (hrest : ∀ c ∈ rest.head?, p c) : ∀ c ∈ (cs ++ rest).head?, p c := by
  cases cs with
  | nil => exact hrest
  | cons c cs => exact hcs

theorem IsWhole.exists_cons {whole : List Char} (h : IsWhole whole) :
    ∃ d ds, whole = d :: ds ∧ d.isDigit = Bool.true := by
  cases h with
  | zero => exact ⟨'0', [], rfl, rfl⟩
  | digits _ h => exact ⟨_, _, rfl, h.2 _ (by simp)⟩

/-- A number is read part by part behind its sign. -/
private theorem readNumber_eq {sign whole fraction exponent afterWhole afterFraction : List Char} {negative : Bool}
    (hsign : sign = [] ∨ sign = ['-']) (hcs : ∀ c ∈ cs.head?, c ≠ '-') (hw : readWhole cs = some (whole, afterWhole))
    (hf : readFraction afterWhole = some (fraction, afterFraction))
    (he : readExponent afterFraction = some (negative, exponent, rest)) :
    readNumber (sign ++ cs) = if NumberParts.inRange ⟨whole, fraction, negative, exponent⟩ then
      some ((sign ++ cs).take ((sign ++ cs).length - rest.length), rest) else none := by
  rcases hsign with rfl | rfl
  · rw [List.nil_append]
    unfold readNumber
    split
    · exact absurd rfl (hcs '-' rfl)
    · simp only [hw, hf, he, Option.bind_eq_bind, Option.bind_some]
  · unfold readNumber
    simp only [List.singleton_append, hw, hf, he, Option.bind_eq_bind, Option.bind_some]

private theorem readNumber_alike (h : IsNumber cs) : ReadsAlike EndsNumber readNumber cs := by
  obtain @⟨sign, whole, fraction, exponent, hsign, hw, hf, he⟩ := h
  obtain ⟨negative, ds, hexponent⟩ := readExponent_append he
  refine ⟨if NumberParts.inRange ⟨whole, fraction.tail, negative, ds⟩ then
    some (sign ++ (whole ++ (fraction ++ exponent))) else none, fun rest hrest => ?_⟩
  have hends := hrest.apart
  -- what begins each of the parts ends the one before it
  have hexponentHead : ∀ c ∈ (exponent ++ rest).head?, c.isDigit = Bool.false ∧ c ≠ '.' := by
    apply head?_append_of_forall
    · cases he with
      | none => simp
      | digits he => rcases he with rfl | rfl <;> simp
    · exact fun c hc => ⟨(hends c hc).1, (hends c hc).2.1⟩
  have hfractionHead : ∀ c ∈ (fraction ++ (exponent ++ rest)).head?, c.isDigit = Bool.false := by
    apply head?_append_of_forall
    · cases hf with
      | none => simp
      | digits => simp
    · exact fun c hc => (hexponentHead c hc).1
  have hwholeHead : ∀ c ∈ (whole ++ (fraction ++ (exponent ++ rest))).head?, c ≠ '-' := by
    obtain ⟨d, ds, rfl, hd⟩ := hw.exists_cons
    rintro c ⟨⟩ rfl
    cases hd
  have hread := readNumber_eq hsign hwholeHead (readWhole_append hw hfractionHead)
    (readFraction_append hf hexponentHead) (hexponent rest fun c hc => ⟨(hends c hc).1, (hends c hc).2.2⟩)
  have htext : sign ++ (whole ++ (fraction ++ exponent)) ++ rest =
      sign ++ (whole ++ (fraction ++ (exponent ++ rest))) := by simp
  rw [← htext, List.length_append, Nat.add_sub_cancel, List.take_left] at hread
  rw [hread]
  split <;> rfl

/-! ### Strings -/

private theorem readString_escape {c : Char} (hc : c ∈ ['"', '\\', '/', 'b', 'f', 'n', 'r', 't']) (cs : List Char) :
    readString ('\\' :: c :: cs) =
      (escape? c).bind fun e => (readString cs).map fun (s, after) => (e :: s, after) := by
  simp only [List.mem_cons, List.not_mem_nil, or_false] at hc
  rcases hc with rfl | rfl | rfl | rfl | rfl | rfl | rfl | rfl <;> rfl

private theorem readString_plain {c : Char} (hquote : c ≠ '"') (hbackslash : c ≠ '\\') (cs : List Char) :
    readString (c :: cs) =
      if c.toNat < 0x20 then none else (readString cs).map fun (s, after) => (c :: s, after) := by
  simp [readString, hbackslash]

/-- An escape of four digits is read alone, or with the second half of a surrogate pair behind it. -/
private theorem readString_hex (a b c d : Char) (cs : List Char) : readString ('\\' :: 'u' :: a :: b :: c :: d :: cs) =
    (hex4? a b c d).bind fun n =>
      if n < 0xD800 ∨ 0xE000 ≤ n then (readString cs).map fun (s, after) => (Char.ofNat n :: s, after)
      else if 0xDC00 ≤ n then none
      else match cs with
        | '\\' :: 'u' :: e :: f :: g :: h :: rest =>
          (hex4? e f g h).bind fun low =>
            if 0xDC00 ≤ low ∧ low < 0xE000 then
              (readString rest).map fun (s, after) =>
                (Char.ofNat (0x10000 + (n - 0xD800) * 0x400 + (low - 0xDC00)) :: s, after)
            else none
        | _ => none :=
  readString.eq_def _

/-- An escape that is no half of a surrogate pair. -/
private theorem readString_unicode {a b c d : Char} {n : Nat} (h : hex4? a b c d = some n)
    (hn : n < 0xD800 ∨ 0xE000 ≤ n) (cs : List Char) : readString ('\\' :: 'u' :: a :: b :: c :: d :: cs) =
      (readString cs).map fun (s, after) => (Char.ofNat n :: s, after) := by
  rw [readString_hex, h, Option.bind_some, if_pos hn]

private theorem readString_unicode_eq_none {a b c d : Char} (h : ∀ n, hex4? a b c d = some n → 0xDC00 ≤ n ∧ n < 0xE000)
    (cs : List Char) : readString ('\\' :: 'u' :: a :: b :: c :: d :: cs) = none := by
  rw [readString_hex]
  cases hx : hex4? a b c d with
  | none => rfl
  | some n =>
    have := h n hx
    rw [Option.bind_some, if_neg (by omega), if_pos this.1]

/-- The first half of a surrogate pair, with the second half behind it. -/
private theorem readString_pair {a b c d e f g h : Char} {n : Nat} (hx : hex4? a b c d = some n)
    (hn : 0xD800 ≤ n ∧ n < 0xDC00) (cs : List Char) :
    readString ('\\' :: 'u' :: a :: b :: c :: d :: '\\' :: 'u' :: e :: f :: g :: h :: cs) =
      (hex4? e f g h).bind fun low =>
        if 0xDC00 ≤ low ∧ low < 0xE000 then
          (readString cs).map fun (s, after) =>
            (Char.ofNat (0x10000 + (n - 0xD800) * 0x400 + (low - 0xDC00)) :: s, after)
        else none := by
  rw [readString_hex, hx, Option.bind_some, if_neg (by omega), if_neg (by omega)]
  rfl

/-- The first half of a surrogate pair on its own. -/
private theorem readString_lone {a b c d : Char} {n : Nat} (hx : hex4? a b c d = some n) (hn : 0xD800 ≤ n ∧ n < 0xDC00)
    {cs : List Char} (hcs : ∀ e f g h rest, cs ≠ '\\' :: 'u' :: e :: f :: g :: h :: rest) :
    readString ('\\' :: 'u' :: a :: b :: c :: d :: cs) = none := by
  rw [readString_hex, hx, Option.bind_some, if_neg (by omega), if_neg (by omega)]
  split
  · rename_i heq
    exact absurd rfl (hcs _ _ _ _ _)
  · rfl

/-- An escape of four digits at the front of a string stands in the string. -/
private theorem IsStringBody.exists_unicode {s : List Char} (h : IsStringBody s) {e f g i : Char}
    {rest after : List Char} (heq : s ++ '"' :: rest = '\\' :: 'u' :: e :: f :: g :: i :: after) :
    ∃ cs, s = '\\' :: 'u' :: e :: f :: g :: i :: cs ∧ IsStringBody cs := by
  cases h with
  | nil => cases heq
  | plain _ _ hbackslash _ =>
    have := (List.cons.inj heq).1
    exact absurd this hbackslash
  | escape hc h =>
    obtain ⟨rfl, -⟩ := List.cons.inj (List.cons.inj heq).2
    exact absurd hc (by decide)
  | unicode _ h =>
    simp only [List.cons_append, List.cons.injEq, true_and] at heq
    obtain ⟨rfl, rfl, rfl, rfl, -⟩ := heq
    exact ⟨_, rfl, h⟩

/-- A string is read alike whatever follows its closing quote. -/
private theorem readString_alike {s : List Char} (h : IsStringBody s) :
    ReadsAlike Anything readString (s ++ ['"']) := by
  -- a pair of surrogates is read at once, so the induction is on the length
  induction hn : s.length using Nat.strong_induction_on generalizing s with
  | _ n ih =>
    subst hn
    cases h with
    | nil => exact ⟨some [], fun rest _ => rfl⟩
    | @plain c cs hc hquote hbackslash h =>
      obtain ⟨answer, hread⟩ := ih cs.length (by simp) h rfl
      refine ⟨if c.toNat < 0x20 then none else answer.map (c :: ·), fun rest hrest => ?_⟩
      have := hread rest hrest
      rw [List.cons_append, List.cons_append, readString_plain hquote hbackslash, this]
      split
      · rfl
      · cases answer <;> rfl
    | @escape c cs hc h =>
      obtain ⟨answer, hread⟩ := ih cs.length (by simp only [List.length_cons]; omega) h rfl
      refine ⟨(escape? c).bind fun e => answer.map (e :: ·), fun rest hrest => ?_⟩
      have := hread rest hrest
      rw [List.cons_append, List.cons_append, List.cons_append, List.cons_append, readString_escape hc, this]
      cases escape? c <;> cases answer <;> rfl
    | @unicode a b c d cs hhex h =>
      obtain ⟨answer, hread⟩ := ih cs.length (by simp only [List.length_cons]; omega) h rfl
      simp only [List.cons_append]
      by_cases hlow : ∀ n, hex4? a b c d = some n → 0xDC00 ≤ n ∧ n < 0xE000
      · exact ⟨none, fun rest _ => readString_unicode_eq_none hlow _⟩
      simp only [not_forall] at hlow
      obtain ⟨n, hx, hlow⟩ := hlow
      by_cases hplain : n < 0xD800 ∨ 0xE000 ≤ n
      · refine ⟨answer.map (Char.ofNat n :: ·), fun rest hrest => ?_⟩
        simp only [List.cons_append]
        rw [readString_unicode hx hplain, hread rest hrest]
        cases answer <;> rfl
      have hhigh : 0xD800 ≤ n ∧ n < 0xDC00 := by omega
      by_cases hpair : ∃ e f g i cs', cs = '\\' :: 'u' :: e :: f :: g :: i :: cs'
      · obtain ⟨e, f, g, i, cs, rfl⟩ := hpair
        have hclosed : ('\\' :: 'u' :: e :: f :: g :: i :: cs) ++ '"' :: [] =
            '\\' :: 'u' :: e :: f :: g :: i :: (cs ++ ['"']) := by simp
        obtain ⟨cs', hcs, h'⟩ := h.exists_unicode hclosed
        obtain rfl : cs = cs' := by simpa using hcs
        obtain ⟨answer, hread⟩ := ih cs.length (by simp only [List.length_cons]; omega) h' rfl
        refine ⟨(hex4? e f g i).bind fun low => if 0xDC00 ≤ low ∧ low < 0xE000 then
          answer.map (Char.ofNat (0x10000 + (n - 0xD800) * 0x400 + (low - 0xDC00)) :: ·) else none, fun rest hrest => ?_⟩
        simp only [List.cons_append]
        rw [readString_pair hx hhigh, hread rest hrest]
        cases hex4? e f g i with
        | none => rfl
        | some low =>
          rw [Option.bind_some, Option.bind_some]
          split
          · cases answer <;> rfl
          · rfl
      · refine ⟨none, fun rest _ => ?_⟩
        simp only [List.cons_append, List.append_assoc, List.nil_append]
        apply readString_lone hx hhigh
        intro e f g i after heq
        obtain ⟨cs', hcs, -⟩ := h.exists_unicode heq
        exact hpair ⟨e, f, g, i, cs', hcs⟩

/-! ### Items and members -/

variable {read : List Char → Option (Value × List Char)} {v : Value} {member : String × Value}

/-- A value with the blanks around it. -/
def readItem (read : List Char → Option (Value × List Char)) (cs : List Char) : Option (Value × List Char) :=
  (read (skipBlanks cs)).map fun (v, rest) => (v, skipBlanks rest)

/-- A key and its item. -/
def readMember (read : List Char → Option (Value × List Char)) (cs : List Char) :
    Option ((String × Value) × List Char) :=
  (readKey cs).bind fun (key, rest) => (readItem read rest).map fun (v, rest) => ((key, v), rest)

private theorem readItem_eq_some : readItem read cs = some (v, rest) ↔
    ∃ after, read (skipBlanks cs) = some (v, after) ∧ skipBlanks after = rest := by
  simp [readItem]

private theorem readMember_eq_some : readMember read cs = some (member, rest) ↔
    ∃ behind, readKey cs = some (member.1, behind) ∧ readItem read behind = some (member.2, rest) := by
  obtain ⟨key, v⟩ := member
  simp only [readMember, Option.bind_eq_some_iff, Option.map_eq_some_iff, Prod.exists, Prod.mk.injEq]
  constructor
  · rintro ⟨_, behind, hkey, _, _, hitem, ⟨rfl, rfl⟩, rfl⟩
    exact ⟨behind, hkey, hitem⟩
  · rintro ⟨behind, hkey, hitem⟩
    exact ⟨key, behind, hkey, v, rest, hitem, ⟨rfl, rfl⟩, rfl⟩

/-- `all` reads what `one` reads, up to the closing bracket and again behind every comma. -/
structure ReadsList {α : Type} (one : List Char → Option (α × List Char)) (all : List Char → Option (List α × List Char))
    (close : Char) : Prop where
  closes : close = ']' ∨ close = '\x7d'
  none : ∀ cs, one cs = none → all cs = none
  last : ∀ cs a rest, one cs = some (a, close :: rest) → all cs = some ([a], rest)
  more : ∀ cs a rest, one cs = some (a, ',' :: rest) → rest.length < cs.length →
    all cs = (all rest).map fun (as, after) => (a :: as, after)

private theorem readsList_items (read : List Char → Option (Value × List Char)) :
    ReadsList (readItem read) (readItems read) ']' where
  closes := Or.inl rfl
  none cs h := by
    rw [readItem, Option.map_eq_none_iff] at h
    rw [readItems, h]
  last cs v rest h := by
    obtain ⟨after, hread, hafter⟩ := readItem_eq_some.1 h
    rw [readItems, hread]
    simp only [hafter]
  more cs v rest h hlt := by
    obtain ⟨after, hread, hafter⟩ := readItem_eq_some.1 h
    rw [readItems, hread]
    simp only [hafter, if_pos hlt]

private theorem readsList_members (read : List Char → Option (Value × List Char)) :
    ReadsList (readMember read) (readMembers read) '\x7d' where
  closes := Or.inr rfl
  none cs h := by
    rw [readMembers]
    cases hkey : readKey cs with
    | none => rfl
    | some answer =>
      obtain ⟨key, behind⟩ := answer
      rw [readMember, hkey, Option.bind_some, Option.map_eq_none_iff, readItem, Option.map_eq_none_iff] at h
      simp only [h]
  last cs member rest h := by
    obtain ⟨behind, hkey, hitem⟩ := readMember_eq_some.1 h
    obtain ⟨after, hread, hafter⟩ := readItem_eq_some.1 hitem
    rw [readMembers, hkey]
    simp only [hread, hafter]
  more cs member rest h hlt := by
    obtain ⟨behind, hkey, hitem⟩ := readMember_eq_some.1 h
    obtain ⟨after, hread, hafter⟩ := readItem_eq_some.1 hitem
    rw [readMembers, hkey]
    simp only [hread, hafter, if_pos hlt]

/-! ### What texts begin with -/

/-- A character that may begin a value. -/
def Begins (c : Char) : Prop := isBlank c = Bool.false ∧ c ≠ ']' ∧ c ≠ '\x7d'

private theorem begins_of_isDigit (hc : c.isDigit = Bool.true) : Begins c := by
  refine ⟨?_, ?_, ?_⟩
  · cases hblank : isBlank c with
    | false => rfl
    | true =>
      simp only [isBlank, Bool.or_eq_true, beq_iff_eq] at hblank
      rcases hblank with ((rfl | rfl) | rfl) | rfl <;> cases hc
  · rintro rfl
    cases hc
  · rintro rfl
    cases hc

theorem IsNumber.exists_cons (h : IsNumber cs) : ∃ c t, cs = c :: t ∧ (c = '-' ∨ c.isDigit = Bool.true) := by
  obtain ⟨hsign, hw, hf, he⟩ := h
  rcases hsign with rfl | rfl
  · obtain ⟨d, ds, rfl, hd⟩ := hw.exists_cons
    exact ⟨d, _, rfl, Or.inr hd⟩
  · exact ⟨'-', _, rfl, Or.inl rfl⟩

private theorem IsJson.exists_cons_of_value (h : IsJson .value cs) : ∃ c t, cs = c :: t ∧ Begins c := by
  cases h with
  | ofObject h => cases h <;> exact ⟨'\x7b', _, rfl, by unfold Begins; decide⟩
  | emptyArray | array => exact ⟨'[', _, rfl, by unfold Begins; decide⟩
  | null => exact ⟨'n', _, rfl, by unfold Begins; decide⟩
  | true => exact ⟨'t', _, rfl, by unfold Begins; decide⟩
  | false => exact ⟨'f', _, rfl, by unfold Begins; decide⟩
  | string => exact ⟨'"', _, rfl, by unfold Begins; decide⟩
  | number h =>
    obtain ⟨c, t, hcs, hc⟩ := h.exists_cons
    refine ⟨c, t, hcs, ?_⟩
    rcases hc with rfl | hc
    · unfold Begins; decide
    · exact begins_of_isDigit hc

/-- Behind some blanks stands the first character of a value or of a key. -/
def BeginsBehindBlanks (cs : List Char) : Prop := ∃ bl c t, cs = bl ++ c :: t ∧ IsBlanks bl ∧ Begins c

theorem BeginsBehindBlanks.append (h : BeginsBehindBlanks cs) (rest : List Char) :
    BeginsBehindBlanks (cs ++ rest) := by
  obtain ⟨bl, c, t, rfl, hb, hc⟩ := h
  exact ⟨bl, c, t ++ rest, by simp, hb, hc⟩

theorem BeginsBehindBlanks.skipBlanks (h : BeginsBehindBlanks cs) :
    ∃ c t, skipBlanks cs = c :: t ∧ Begins c := by
  obtain ⟨bl, c, t, rfl, hb, hc⟩ := h
  exact ⟨c, t, by rw [skipBlanks_append hb, skipBlanks_cons hc.1], hc⟩

private theorem IsJson.begins_of_value (h : IsJson .value cs) : BeginsBehindBlanks cs := by
  obtain ⟨c, t, rfl, hc⟩ := h.exists_cons_of_value
  exact ⟨[], c, t, rfl, by simp [IsBlanks], hc⟩

private theorem IsJson.beginsBehindBlanks {form : Form} (h : IsJson form cs) : BeginsBehindBlanks cs := by
  induction h with
  | item hb h _ _ =>
    obtain ⟨c, t, rfl, hc⟩ := h.exists_cons_of_value
    exact ⟨_, c, _, rfl, hb, hc⟩
  | member hb => exact ⟨_, '"', _, rfl, hb, by unfold Begins; decide⟩
  | lastItem _ ih | lastMember _ ih => exact ih
  | moreItems _ _ ih _ | moreMembers _ _ ih _ => exact ih.append _
  | emptyObject hb => exact (IsJson.ofObject (.emptyObject hb)).begins_of_value
  | object h => exact (IsJson.ofObject (.object h)).begins_of_value
  | ofObject h => exact (IsJson.ofObject h).begins_of_value
  | emptyArray hb => exact (IsJson.emptyArray hb).begins_of_value
  | array h => exact (IsJson.array h).begins_of_value
  | null => exact IsJson.null.begins_of_value
  | true => exact IsJson.true.begins_of_value
  | false => exact IsJson.false.begins_of_value
  | string h => exact (IsJson.string h).begins_of_value
  | number h => exact (IsJson.number h).begins_of_value

/-! ### Values -/

private theorem readValue_eq_readScalar (hcs : ∀ c ∈ cs.head?, c ≠ '[' ∧ c ≠ '\x7b') (depth : Nat) :
    readValue depth cs = readScalar cs := by
  cases depth with
  | zero => rfl
  | succ depth =>
    cases cs with
    | nil => rfl
    | cons c cs =>
      obtain ⟨hbracket, hbrace⟩ := hcs c rfl
      simp [readValue, hbracket, hbrace]

private theorem readScalar_eq_readNumber (hcs : ∀ c ∈ cs.head?, c ∉ ['n', 't', 'f', '"']) :
    readScalar cs = (readNumber cs).map fun (text, after) => (.number (String.ofList text), after) := by
  unfold readScalar
  split
  · exact absurd (hcs 'n' rfl) (by decide)
  · exact absurd (hcs 't' rfl) (by decide)
  · exact absurd (hcs 'f' rfl) (by decide)
  · exact absurd (hcs '"' rfl) (by decide)
  · rfl

/-- A container is too deep where no container may stand. -/
private theorem readValue_zero_container
    (hc : c = '[' ∨ c = '\x7b') (cs : List Char) : readValue 0 (c :: cs) = none := by
  have hscalar : readScalar (c :: cs) = none := by
    rw [readScalar_eq_readNumber]
    · rcases hc with rfl | rfl <;> simp [readNumber, readWhole, digits]
    · rintro d ⟨⟩
      rcases hc with rfl | rfl <;> decide
  exact hscalar

private theorem readValue_brace (depth : Nat) (cs : List Char) : readValue (depth + 1) ('\x7b' :: cs) =
    match skipBlanks cs with
    | '\x7d' :: after => some (.object [], after)
    | _ => (readMembers (readValue depth) cs).map fun (ms, after) => (.object ms, after) := rfl

private theorem readValue_bracket (depth : Nat) (cs : List Char) : readValue (depth + 1) ('[' :: cs) =
    match skipBlanks cs with
    | ']' :: after => some (.array [], after)
    | _ => (readItems (readValue depth) cs).map fun (vs, after) => (.array vs, after) := rfl

private theorem readValue_emptyObject (depth : Nat) (cs rest : List Char) (h : skipBlanks cs = '\x7d' :: rest) :
    readValue (depth + 1) ('\x7b' :: cs) = some (.object [], rest) := by
  simp only [readValue_brace, h]

private theorem readValue_emptyArray (depth : Nat) (cs rest : List Char) (h : skipBlanks cs = ']' :: rest) :
    readValue (depth + 1) ('[' :: cs) = some (.array [], rest) := by
  simp only [readValue_bracket, h]

private theorem readValue_object (hcs : ∀ after, skipBlanks cs ≠ '\x7d' :: after) (depth : Nat) :
    readValue (depth + 1) ('\x7b' :: cs) =
      (readMembers (readValue depth) cs).map fun (ms, after) => (.object ms, after) := by
  rw [readValue_brace]
  split
  · rename_i heq
    exact absurd heq (hcs _)
  · rfl

private theorem readValue_array (hcs : ∀ after, skipBlanks cs ≠ ']' :: after) (depth : Nat) :
    readValue (depth + 1) ('[' :: cs) =
      (readItems (readValue depth) cs).map fun (vs, after) => (.array vs, after) := by
  rw [readValue_bracket]
  split
  · rename_i heq
    exact absurd heq (hcs _)
  · rfl

/-- What is read from an opening brace is an object. -/
private theorem isObject_of_readValue {depth : Nat} (h : readValue depth ('\x7b' :: cs) = some (v, rest)) :
    v.isObject = Bool.true := by
  cases depth with
  | zero =>
    rw [readValue_zero_container (.inr rfl)] at h
    cases h
  | succ depth =>
    rw [readValue_brace] at h
    split at h
    · cases h
      rfl
    · obtain ⟨⟨ms, after⟩, -, heq⟩ := Option.map_eq_some_iff.1 h
      cases heq
      rfl

/-- How a text of the form is read alike.  The closing bracket of items and members is read with them. -/
def Alike (depth : Nat) : Form → List Char → Prop
  | .object, cs => ReadsAlike Anything (readValue depth) cs
  | .value, cs => ReadsAlike EndsNumber (readValue depth) cs
  | .item, cs => ReadsAlike EndsItem (readItem (readValue depth)) cs
  | .items, cs => ReadsAlike Anything (readItems (readValue depth)) (cs ++ [']'])
  | .member, cs => ReadsAlike EndsItem (readMember (readValue depth)) cs
  | .members, cs => ReadsAlike Anything (readMembers (readValue depth)) (cs ++ ['\x7d'])

private theorem endsItem_cons (hc : c = ',' ∨ c = ']' ∨ c = '\x7d') (rest : List Char) : EndsItem (c :: rest) := by
  rintro d ⟨⟩
  exact hc

private theorem alike_item (hb : IsBlanks bl) (h : ReadsAlike EndsNumber read cs) (hcs : ∃ c t, cs = c :: t ∧ Begins c)
    {bl' : List Char} (hb' : IsBlanks bl') : ReadsAlike EndsItem (readItem read) (bl ++ (cs ++ bl')) := by
  obtain ⟨answer, hread⟩ := h
  obtain ⟨c, t, rfl, hc⟩ := hcs
  refine ⟨answer, fun rest hrest => ?_⟩
  have hvalue := hread (bl' ++ rest) (hrest.endsNumber hb')
  have hskip : skipBlanks (bl ++ (c :: t ++ bl') ++ rest) = c :: t ++ (bl' ++ rest) := by
    rw [List.append_assoc, List.append_assoc, skipBlanks_append hb]
    exact skipBlanks_cons hc.1 _
  rw [readItem, hskip, hvalue]
  cases answer with
  | none => rfl
  | some v => simp [skipBlanks_append hb', hrest.skipBlanks]

private theorem ReadsList.alike_last {α : Type} {one : List Char → Option (α × List Char)}
    {all : List Char → Option (List α × List Char)} {close : Char} (hlist : ReadsList one all close)
    (h : ReadsAlike EndsItem one cs) : ReadsAlike Anything all (cs ++ [close]) := by
  obtain ⟨answer, hread⟩ := h
  refine ⟨answer.map ([·]), fun rest _ => ?_⟩
  have hone := hread (close :: rest) (endsItem_cons (Or.inr hlist.closes) rest)
  rw [List.append_assoc, List.singleton_append]
  cases answer with
  | none => exact hlist.none _ hone
  | some a => exact hlist.last _ _ _ hone

private theorem ReadsList.alike_more {α : Type} {one : List Char → Option (α × List Char)}
    {all : List Char → Option (List α × List Char)} {close : Char} (hlist : ReadsList one all close)
    (h : ReadsAlike EndsItem one cs) {more : List Char} (hr : ReadsAlike Anything all (more ++ [close])) :
    ReadsAlike Anything all (cs ++ ',' :: more ++ [close]) := by
  obtain ⟨answer, hread⟩ := h
  obtain ⟨answers, hreads⟩ := hr
  refine ⟨answer.bind fun a => answers.map (a :: ·), fun rest hrest => ?_⟩
  have htext : cs ++ ',' :: more ++ [close] ++ rest = cs ++ ',' :: (more ++ [close] ++ rest) := by simp
  have hone := hread (',' :: (more ++ [close] ++ rest)) (endsItem_cons (Or.inl rfl) _)
  rw [htext]
  cases answer with
  | none => exact hlist.none _ hone
  | some a =>
    rw [hlist.more _ _ _ hone (by simp only [List.length_append, List.length_cons]; omega), hreads rest hrest]
    cases answers <;> rfl

private theorem alike_member (hb : IsBlanks bl) {s bl' : List Char} (hs : IsStringBody s) (hb' : IsBlanks bl')
    (h : ReadsAlike EndsItem (readItem read) cs) :
    ReadsAlike EndsItem (readMember read) (bl ++ '"' :: (s ++ '"' :: (bl' ++ ':' :: cs))) := by
  obtain ⟨key, hkey⟩ := readString_alike hs
  obtain ⟨answer, hread⟩ := h
  refine ⟨key.bind fun key => answer.map fun v => (String.ofList key, v), fun rest hrest => ?_⟩
  have htext : bl ++ '"' :: (s ++ '"' :: (bl' ++ ':' :: cs)) ++ rest =
      bl ++ '"' :: (s ++ ['"'] ++ (bl' ++ ':' :: (cs ++ rest))) := by simp
  have hstring := hkey (bl' ++ ':' :: (cs ++ rest)) trivial
  have hreadKey : readKey (bl ++ '"' :: (s ++ ['"'] ++ (bl' ++ ':' :: (cs ++ rest)))) =
      key.map fun key => (String.ofList key, cs ++ rest) := by
    rw [readKey, skipBlanks_append hb, skipBlanks_cons (by decide)]
    simp only [hstring]
    cases key with
    | none => rfl
    | some key => simp [skipBlanks_append hb', skipBlanks_cons (show isBlank ':' = Bool.false by decide)]
  rw [htext, readMember, hreadKey]
  cases key with
  | none => rfl
  | some key =>
    have hitem := hread rest hrest
    simp only [Option.map_some, Option.bind_some, hitem]
    cases answer <;> rfl

/-- Where containers may stand, blanks between brackets make an empty one. -/
private theorem alike_empty (hb : IsBlanks bl) {o c : Char} {v : Value} (ho : o = '[' ∨ o = '\x7b')
    (hread : ∀ depth after rest, skipBlanks after = c :: rest → readValue (depth + 1) (o :: after) = some (v, rest))
    (hc : isBlank c = Bool.false) (depth : Nat) : ReadsAlike Anything (readValue depth) (o :: (bl ++ [c])) := by
  cases depth with
  | zero => exact ⟨none, fun rest _ => readValue_zero_container ho _⟩
  | succ depth =>
    refine ⟨some v, fun rest _ => ?_⟩
    rw [List.cons_append]
    apply hread
    rw [List.append_assoc, skipBlanks_append hb]
    exact skipBlanks_cons hc rest

private theorem alike_object (hcs : BeginsBehindBlanks cs)
    (h : ∀ depth, ReadsAlike Anything (readMembers (readValue depth)) (cs ++ ['\x7d'])) (depth : Nat) :
    ReadsAlike Anything (readValue depth) ('\x7b' :: (cs ++ ['\x7d'])) := by
  cases depth with
  | zero => exact ⟨none, fun rest _ => readValue_zero_container (Or.inr rfl) _⟩
  | succ depth =>
    obtain ⟨answer, hread⟩ := h depth
    refine ⟨answer.map .object, fun rest hrest => ?_⟩
    obtain ⟨c, t, hskip, -, -, hbrace⟩ := ((hcs.append ['\x7d']).append rest).skipBlanks
    have hmembers := hread rest hrest
    rw [List.cons_append, readValue_object, hmembers]
    · cases answer <;> rfl
    · intro after heq
      rw [hskip] at heq
      exact hbrace (List.cons.inj heq).1

private theorem alike_array (hcs : BeginsBehindBlanks cs)
    (h : ∀ depth, ReadsAlike Anything (readItems (readValue depth)) (cs ++ [']'])) (depth : Nat) :
    ReadsAlike Anything (readValue depth) ('[' :: (cs ++ [']'])) := by
  cases depth with
  | zero => exact ⟨none, fun rest _ => readValue_zero_container (Or.inl rfl) _⟩
  | succ depth =>
    obtain ⟨answer, hread⟩ := h depth
    refine ⟨answer.map .array, fun rest hrest => ?_⟩
    obtain ⟨c, t, hskip, -, hbracket, -⟩ := ((hcs.append [']']).append rest).skipBlanks
    have hitems := hread rest hrest
    rw [List.cons_append, readValue_array, hitems]
    · cases answer <;> rfl
    · intro after heq
      rw [hskip] at heq
      exact hbracket (List.cons.inj heq).1

private theorem alike_number (h : IsNumber cs) (depth : Nat) : ReadsAlike EndsNumber (readValue depth) cs := by
  obtain ⟨answer, hread⟩ := readNumber_alike h
  obtain ⟨c, t, rfl, hc⟩ := h.exists_cons
  refine ⟨answer.map fun text => .number (String.ofList text), fun rest hrest => ?_⟩
  have hnumber := hread rest hrest
  -- a sign or a digit begins no other value
  have hfirst : c ≠ '[' ∧ c ≠ '\x7b' := by
    constructor <;> (rintro rfl; exact absurd hc (by decide))
  have hscalar : c ∉ ['n', 't', 'f', '"'] := by
    intro hmem
    simp only [List.mem_cons, List.not_mem_nil, or_false] at hmem
    rcases hmem with rfl | rfl | rfl | rfl <;> exact absurd hc (by decide)
  rw [readValue_eq_readScalar (by simpa using hfirst),
    readScalar_eq_readNumber (by rintro d ⟨⟩; exact hscalar), hnumber]
  cases answer <;> rfl

/-- Whatever follows a text of JSON, it is read alike at every depth. -/
theorem IsJson.alike {form : Form} (h : IsJson form cs) (depth : Nat) : Alike depth form cs := by
  induction h generalizing depth with
  | emptyObject hb => exact alike_empty hb (Or.inr rfl) readValue_emptyObject (by decide) depth
  | object h ih => exact alike_object h.beginsBehindBlanks ih depth
  | ofObject h ih =>
    obtain ⟨answer, hread⟩ := ih depth
    exact ⟨answer, fun rest _ => hread rest trivial⟩
  | emptyArray hb =>
    obtain ⟨answer, hread⟩ := alike_empty hb (Or.inl rfl) readValue_emptyArray (by decide) depth
    exact ⟨answer, fun rest _ => hread rest trivial⟩
  | array h ih =>
    obtain ⟨answer, hread⟩ := alike_array h.beginsBehindBlanks ih depth
    exact ⟨answer, fun rest _ => hread rest trivial⟩
  | null =>
    refine ⟨some .null, fun rest _ => ?_⟩
    rw [readValue_eq_readScalar (by simp)]
    rfl
  | true =>
    refine ⟨some (.bool Bool.true), fun rest _ => ?_⟩
    rw [readValue_eq_readScalar (by simp)]
    rfl
  | false =>
    refine ⟨some (.bool Bool.false), fun rest _ => ?_⟩
    rw [readValue_eq_readScalar (by simp)]
    rfl
  | string hs =>
    obtain ⟨answer, hread⟩ := readString_alike hs
    refine ⟨answer.map fun s => .string (String.ofList s), fun rest _ => ?_⟩
    have hstring := hread rest trivial
    rw [readValue_eq_readScalar (by simp), List.cons_append, readScalar, hstring]
    cases answer <;> rfl
  | number h => exact alike_number h depth
  | item hb h hb' ih => exact alike_item hb (ih depth) h.exists_cons_of_value hb'
  | lastItem _ ih => exact (readsList_items _).alike_last (ih depth)
  | moreItems _ _ ih ihr => exact (readsList_items _).alike_more (ih depth) (ihr depth)
  | member hb hs hb' _ ih => exact alike_member hb hs hb' (ih depth)
  | lastMember _ ih => exact (readsList_members _).alike_last (ih depth)
  | moreMembers _ _ ih ihr => exact (readsList_members _).alike_more (ih depth) (ihr depth)

theorem IsJson.exists_braces (h : IsJson .object cs) : ∃ inner, cs = '\x7b' :: (inner ++ ['\x7d']) := by
  cases h <;> exact ⟨_, rfl⟩

/-- The answer of the reader on an object is an object, and is the same whatever follows. -/
theorem IsJson.exists_readLeading (h : IsJson .object cs) :
    ∃ answer : Option Value, (∀ rest, readLeading (cs ++ rest) = answer) ∧ ∀ v ∈ answer, v.isObject = Bool.true := by
  obtain ⟨answer, hread⟩ := h.alike nestingLimit
  have hobject : ∀ v ∈ answer, v.isObject = Bool.true := by
    rintro v rfl
    have hnil : readValue nestingLimit (cs ++ []) = some (v, []) := hread [] trivial
    obtain ⟨inner, rfl⟩ := h.exists_braces
    exact isObject_of_readValue hnil
  refine ⟨answer, fun rest => ?_, hobject⟩
  have hrest : readValue nestingLimit (cs ++ rest) = answer.map fun v => (v, rest) := hread rest trivial
  cases answer with
  | none => simp only [readLeading, hrest, Option.map_none]
  | some v =>
    -- an object shows its own end
    have hdelimited : v.isDelimited = Bool.true := by
      have := hobject v rfl
      cases v <;> first | rfl | cases this
    simp [readLeading, hrest, hdelimited]

end

end GuardedCrud.Json
