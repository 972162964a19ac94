import GuardedCrud.Naming.Word

/-!
# Plurals of identifiers

Only the last word of an identifier is inflected, and the plural always differs from the singular: nouns without
a plural of their own, and names that already are plurals, get the suffix `List`.
-/

namespace GuardedCrud.Naming

open GuardedCrud.Text

/-- Suffix of a plural that would otherwise equal its singular. -/
def listSuffix : String := "List"

/-- Nouns without a plural of their own. -/
def uncountable : List String := [
  "advice", "aircraft", "bison", "data", "deer", "equipment", "evidence", "feedback",
  "firmware", "fish", "furniture", "hardware", "homework", "information", "jeans",
  "knowledge", "luggage", "media", "metadata", "money", "moose", "music", "news",
  "offspring", "police", "research", "rice", "salmon", "series", "sheep", "software",
  "species", "staff", "swine", "traffic", "trout"]

/-- Singular nouns that end in a plain `s`. -/
def singularInS : List String := ["alias", "atlas", "bias", "canvas", "gas", "lens", "plus", "yes"]

/-- Nouns with an irregular plural. -/
def irregular : List (String × String) := [
  ("child", "children"), ("criterion", "criteria"), ("datum", "data"), ("echo", "echoes"),
  ("foot", "feet"), ("goose", "geese"), ("half", "halves"), ("hero", "heroes"),
  ("knife", "knives"), ("leaf", "leaves"), ("life", "lives"), ("man", "men"),
  ("matrix", "matrices"), ("mouse", "mice"), ("ox", "oxen"), ("person", "people"),
  ("potato", "potatoes"), ("quiz", "quizzes"), ("shelf", "shelves"), ("thief", "thieves"),
  ("tomato", "tomatoes"), ("tooth", "teeth"), ("vertex", "vertices"), ("wife", "wives"),
  ("wolf", "wolves"), ("woman", "women")]

/-- A new word begins with `c`, between `before` and `after`. -/
def startsWord (before c : Char) (after : Option Char) : Bool :=
  before == '_' || before == '-' ||
    (isUppercase c &&
      (isLowercase before || isAsciiDigit before || (isUppercase before && after.any isLowercase)))

/-- Everything before the last word, and the last word. -/
def splitLastWord : List Char → List Char × List Char
  | [] => ([], [])
  | [c] => ([], [c])
  | before :: c :: rest =>
    match splitLastWord (c :: rest) with
    | ([], last) => if startsWord before c rest.head? then ([before], last) else ([], before :: last)
    | (head, last) => (before :: head, last)

/-- The lower case word ends in an `s` that marks a plural. -/
def endsInPluralS (lower : List Char) : Bool :=
  ['s'].isSuffixOf lower &&
    !(['s', 's'].isSuffixOf lower || ['u', 's'].isSuffixOf lower || ['i', 's'].isSuffixOf lower) &&
    !singularInS.contains (String.ofList lower)

/-- The word ends in a sound after which the plural takes `es`; given in lower case. -/
def endsInSibilant (lower : List Char) : Bool :=
  ['s'].isSuffixOf lower || ['x'].isSuffixOf lower || ['z'].isSuffixOf lower ||
    ['s', 'h'].isSuffixOf lower || ['c', 'h'].isSuffixOf lower

/-- The last character but one is a vowel, or there is none. -/
def vowelBeforeLast (lower : List Char) : Bool :=
  match lower.reverse with
  | _ :: c :: _ => c ∈ ['a', 'e', 'i', 'o', 'u']
  | _ => true

/-- Regular plural of a word; a word that already is a plural stays as it is. -/
def regularPlural (word : List Char) : List Char :=
  let lower := lowercase word
  if ['y'].isSuffixOf lower then
    if vowelBeforeLast lower then word ++ ['s'] else word.dropLast ++ ['i', 'e', 's']
  else if endsInPluralS lower then word
  else if ['s', 'i', 's'].isSuffixOf lower then word.dropLast.dropLast ++ ['e', 's']
  else if endsInSibilant lower then word ++ ['e', 's']
  else word ++ ['s']

/-- The irregular plural in the capitals of the singular: all, the first letter, or none. -/
def inCaseOf (singular plural : List Char) : List Char :=
  if 1 < singular.length ∧ singular.all isUppercase then uppercase plural
  else if singular.head?.any isUppercase then
    match plural with
    | [] => []
    | c :: rest => upperChar c ++ rest
  else plural

/-- Plural of a last word, irregular or regular. -/
def pluralWord (word : List Char) : List Char :=
  match irregular.lookup (String.ofList (lowercase word)) with
  | some plural => inCaseOf word plural.toList
  | none => regularPlural word

/-- Plural of an identifier; the empty identifier stays empty. -/
def plural (name : String) : String :=
  if name.isEmpty then name
  else
    let (head, last) := splitLastWord name.toList
    if uncountable.contains (String.ofList (lowercase last)) then name ++ listSuffix
    else
      let inflected := String.ofList (head ++ pluralWord last)
      if inflected = name then name ++ listSuffix else inflected

end GuardedCrud.Naming
