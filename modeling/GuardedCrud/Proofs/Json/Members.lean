import GuardedCrud.Json.Value
import Mathlib.Data.List.Basic

/-!
# Members of objects

Looking up a key takes the last member of that key, so members that are put together are looked up from the end
(`last?_append`).  A member that is left out when it is unset is read back as unset (`optional_of_last?`).
-/

namespace GuardedCrud.Json

variable {α : Type}

/-! ### Looking up a key -/

@[simp] theorem last?_nil (key : String) : Value.last? [] key = none := rfl

@[simp] theorem last?_append (ms ns : List (String × Value)) (key : String) :
    Value.last? (ms ++ ns) key = (Value.last? ns key).or (Value.last? ms key) := by
  unfold Value.last?
  rw [List.reverse_append, List.lookup_append]

@[simp] theorem last?_cons (name key : String) (v : Value) (ms : List (String × Value)) :
    Value.last? ((name, v) :: ms) key = (Value.last? ms key).or (if key = name then some v else none) := by
  unfold Value.last?
  rw [List.reverse_cons, List.lookup_append, List.lookup_cons]
  by_cases h : key = name
  · rw [beq_iff_eq.2 h, if_pos h]
  · rw [beq_eq_false_iff_ne.2 h, if_neg h]
    rfl

@[simp] theorem last?_optionalMember (name key : String) (encode : α → Value) (a? : Option α) :
    Value.last? (optionalMember name encode a?) key = if key = name then a?.map encode else none := by
  cases a? with
  | none => simp [optionalMember]
  | some a => rw [optionalMember, last?_cons, last?_nil, Option.none_or, Option.map_some]

/-! ### Reading a member back -/

/-- A value that is written if it is set, and never as null, is read back as the decoder reads it. -/
theorem optional_of_last? {ms : List (String × Value)} {name : String} {encode : α → Value}
    {decode : Value → Option α} {f : α → α} {a? : Option α} (h : Value.last? ms name = a?.map encode)
    (hnull : ∀ a, encode a ≠ .null) (hdecode : ∀ a, decode (encode a) = some (f a)) :
    optional ms name decode = some (a?.map f) := by
  unfold optional
  rw [h]
  cases a? with
  | none => rfl
  | some a =>
    rw [Option.map_some]
    split
    · rename_i hv
      cases hv
    · rename_i hv
      exact absurd (Option.some.inj hv) (hnull a)
    · rename_i v _ hv
      rw [← Option.some.inj hv, hdecode a]
      rfl

theorem optional_eq_of_last? {ms : List (String × Value)} {name : String} {encode : α → Value}
    {decode : Value → Option α} {a? : Option α} (h : Value.last? ms name = a?.map encode)
    (hnull : ∀ a, encode a ≠ .null) (hdecode : ∀ a, decode (encode a) = some a) : optional ms name decode = some a? := by
  have hread := optional_of_last? (f := id) h hnull hdecode
  rwa [Option.map_id] at hread

/-- A list of encoded values is read back if each value is. -/
theorem mapM_map_encode {encode : α → Value} {decode : Value → Option α} (h : ∀ a, decode (encode a) = some a)
    (as : List α) : (as.map encode).mapM decode = some as := by
  have hcomp : decode ∘ encode = (pure : α → Option α) := funext h
  rw [List.mapM_map, hcomp, List.mapM_pure, List.map_id']
  rfl

end GuardedCrud.Json
