/-!
# JSON values

A value as written: numbers keep their text, and objects keep all their members in order, also those whose key
comes again.  A look-up takes the last member of a key.

An object stands for a structure by its keys, and a list stands for one field by field in order.  Members of no
field do not count, and a list may leave out fields at its end.
-/

namespace GuardedCrud.Json

/-- A JSON value. -/
inductive Value
  | null
  | bool (b : Bool)
  | number (text : String)
  | string (s : String)
  | array (items : List Value)
  | object (members : List (String × Value))
  deriving Repr, Inhabited, BEq

namespace Value

/-- The last value of a key among some members. -/
def last? (members : List (String × Value)) (key : String) : Option Value :=
  members.reverse.lookup key

/-- The value is an object. -/
def isObject : Value → Bool
  | object _ => true
  | _ => false

/-- The value is a container or a string, so its end shows without looking at what follows. -/
def isDelimited : Value → Bool
  | string _ | array _ | object _ => true
  | _ => false

end Value

/-! ### Values that stand for structures -/

/-- The fields that a value gives, for a structure with the given field names in order.  A list longer than the
structure is refused unless `surplus` allows it. -/
def Value.fields? (names : List String) (surplus : Bool) : Value → Option (List (String × Value))
  | .object members => some members
  | .array items =>
    if items.length ≤ names.length || surplus then some (names.zip items) else none
  | _ => none

/-- A string. -/
def Value.text? : Value → Option String
  | .string s => some s
  | _ => none

/-- A truth value. -/
def Value.bool? : Value → Option Bool
  | .bool b => some b
  | _ => none

/-- A list. -/
def Value.items? : Value → Option (List Value)
  | .array items => some items
  | _ => none

/-- A list of strings. -/
def Value.texts? (v : Value) : Option (List String) := v.items?.bind (List.mapM Value.text?)

variable {α : Type}

/-- A field that must be given. -/
def required (fields : List (String × Value)) (name : String) (decode : Value → Option α) : Option α :=
  (Value.last? fields name).bind decode

/-- A field that may be left out. -/
def defaulted (fields : List (String × Value)) (name : String) (default : α) (decode : Value → Option α) :
    Option α :=
  match Value.last? fields name with
  | none => some default
  | some v => decode v

/-- A field that may be left out or be null; both mean that it is unset. -/
def optional (fields : List (String × Value)) (name : String) (decode : Value → Option α) :
    Option (Option α) :=
  match Value.last? fields name with
  | none => some none
  | some .null => some none
  | some v => (decode v).map some

/-- A member that is written only if it is set. -/
def optionalMember (name : String) (encode : α → Value) : Option α → List (String × Value)
  | none => []
  | some a => [(name, encode a)]

end GuardedCrud.Json
