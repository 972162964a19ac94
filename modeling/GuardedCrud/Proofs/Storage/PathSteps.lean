import GuardedCrud.Proofs.Text.ByteOrder
import GuardedCrud.Storage.Path
import Mathlib.Data.List.Basic
import Mathlib.Tactic.SplitIfs

/-!
# Steps below a path

Names that are joined to a path one after the other are its last components (`components_below`), and it is the same to
join them with slashes first (`join_intercalate`).  Paths are ordered by the bytes of their components (`Before`), and
`le` orders the steps below a path as the paths at their ends (`before_below`).
-/

namespace GuardedCrud.Storage.Path

/-- A name that something in a directory can have. -/
structure IsName (name : String) : Prop where
  ne_empty : name ≠ ""
  slash_notMem : '/' ∉ name.toList
  ne_self : name ≠ "."
  ne_up : name ≠ ".."
  short : name.utf8ByteSize ≤ longestStep

instance (name : String) : Decidable (IsName name) :=
  decidable_of_iff
    (name ≠ "" ∧ '/' ∉ name.toList ∧ name ≠ "." ∧ name ≠ ".." ∧ name.utf8ByteSize ≤ longestStep)
    ⟨fun ⟨h, h₁, h₂, h₃, h₄⟩ => ⟨h, h₁, h₂, h₃, h₄⟩, fun h => ⟨h.ne_empty, h.slash_notMem, h.ne_self, h.ne_up, h.short⟩⟩

/-- The path of some steps below a path. -/
def below (path : String) (steps : List String) : String := steps.foldl join path

theorem isNone_refusal?_of_long {path : String} (h : longestPath < path.utf8ByteSize) :
    (refusal? path).isNone = false := by
  unfold refusal?
  rw [if_pos h]
  split_ifs <;> rfl

private theorem le_longestPath {path : String} (h : refusal? path = none) : path.utf8ByteSize ≤ longestPath := by
  by_contra hlong
  have hrefused := isNone_refusal?_of_long (Nat.lt_of_not_le hlong)
  rw [h] at hrefused
  cases hrefused

/-! ### Joining -/

/-- What a relative path is joined to a path with. -/
def separator (base : String) : String := if base == "" || endsInSlash base then "" else "/"

private theorem join_of_relative (base : String) {path : String} (h : isAbsolute path = false) :
    join base path = base ++ separator base ++ path := by
  unfold join separator
  rw [h, Bool.false_or]
  split
  · rw [if_neg Bool.false_ne_true, String.append_empty]
  · rfl

theorem isAbsolute_append {base : String} (h : base ≠ "") (path : String) :
    isAbsolute (base ++ path) = isAbsolute base := by
  unfold isAbsolute
  rw [String.toList_append]
  cases hbase : base.toList with
  | nil => exact absurd (String.toList_eq_nil_iff.1 hbase) h
  | cons c cs => rfl

namespace IsName

variable {name : String}

theorem isAbsolute (h : IsName name) : Path.isAbsolute name = false := by
  unfold Path.isAbsolute
  cases hname : name.toList with
  | nil => rfl
  | cons c cs =>
    have hc : c ≠ '/' := fun hc => h.slash_notMem (by rw [hname, hc]; exact List.mem_cons_self ..)
    simpa using hc

theorem join_eq (h : IsName name) (base : String) : join base name = base ++ separator base ++ name :=
  join_of_relative base h.isAbsolute

private theorem join_ne_empty (h : IsName name) (base : String) : join base name ≠ "" := by
  rw [h.join_eq]
  simp [h.ne_empty]

private theorem isAbsolute_join (h : IsName name) {base : String} (hbase : base ≠ "") :
    Path.isAbsolute (join base name) = Path.isAbsolute base := by
  rw [h.join_eq, String.append_assoc, isAbsolute_append hbase]

private theorem endsInSlash_join (h : IsName name) (base : String) : endsInSlash (join base name) = false := by
  have hlast : ∀ d ∈ name.toList.getLast?, d ≠ '/' := fun d hd hslash =>
    h.slash_notMem (hslash ▸ List.mem_of_getLast? hd)
  rw [h.join_eq]
  unfold endsInSlash
  rw [String.toList_append, List.getLast?_append]
  cases hname : name.toList.getLast? with
  | none => exact absurd (String.toList_eq_nil_iff.1 (List.getLast?_eq_none_iff.1 hname)) h.ne_empty
  | some d => simpa using hlast d hname

theorem leadsOn_join (h : IsName name) {base : String} (hbelow : refusal? (join base name) = none) :
    leadsOn base (join base name) = true := by
  have hname : 0 < name.utf8ByteSize := Nat.pos_of_ne_zero (mt String.utf8ByteSize_eq_zero_iff.1 h.ne_empty)
  refine leadsOn_iff.2 ⟨?_, le_longestPath hbelow⟩
  rw [h.join_eq, String.utf8ByteSize_append, String.utf8ByteSize_append]
  omega

/-- A path joined to a path in two parts. -/
private theorem join_join (h : IsName name) (base : String) {path : String} (hpath : Path.isAbsolute path = false) :
    join (join base name) path = join base (name ++ "/" ++ path) := by
  have hseparator : separator (join base name) = "/" := by
    unfold separator
    rw [h.endsInSlash_join, beq_false_of_ne (h.join_ne_empty base)]
    rfl
  have hrelative : Path.isAbsolute (name ++ "/" ++ path) = false := by
    rw [String.append_assoc, isAbsolute_append h.ne_empty, h.isAbsolute]
  rw [join_of_relative _ hpath, hseparator, h.join_eq, join_of_relative _ hrelative]
  simp only [String.append_assoc]

end IsName

/-! ### Components -/

theorem components_append_slash (base path : String) :
    components (base ++ "/" ++ path) = components base ++ components path := by
  have hjoined : (base ++ "/" ++ path).toList = base.toList ++ '/' :: path.toList := by
    rw [String.toList_append, String.toList_append, List.append_assoc]
    rfl
  simp only [components, segments, hjoined, List.splitOn_append_cons_self, List.map_append, List.filter_append]

theorem components_empty : components "" = [] := by decide

private theorem exists_of_endsInSlash {path : String} (h : endsInSlash path = true) : ∃ front, path = front ++ "/" := by
  obtain ⟨cs, hcs⟩ := List.getLast?_eq_some_iff.1 (eq_of_beq h)
  refine ⟨String.ofList cs, String.toList_inj.1 ?_⟩
  rw [hcs, String.toList_append, String.toList_ofList]
  rfl

namespace IsName

variable {name : String}

private theorem components_eq (h : IsName name) : components name = [name] := by
  unfold components segments
  rw [List.splitOn_eq_singleton h.slash_notMem, List.map_singleton, String.ofList_toList]
  simp [h.ne_empty]

theorem components_join (h : IsName name) (base : String) : components (join base name) = components base ++ [name] := by
  rw [h.join_eq]
  unfold separator
  split
  · rename_i hbase
    rw [String.append_empty]
    rcases Bool.or_eq_true_iff.1 hbase with hempty | hslash
    · rw [eq_of_beq hempty, String.empty_append, components_empty, h.components_eq, List.nil_append]
    · -- the slash at the end of the path is the one before the name
      obtain ⟨front, rfl⟩ := exists_of_endsInSlash hslash
      have hfront : components (front ++ "/") = components front := by
        rw [← String.append_empty (s := front ++ "/"), components_append_slash, components_empty, List.append_nil]
      rw [components_append_slash, hfront, h.components_eq]
  · rw [components_append_slash, h.components_eq]

end IsName

/-! ### Several steps -/

section

variable {steps : List String}

private theorem below_concat (path : String) (steps : List String) (name : String) :
    below path (steps ++ [name]) = join (below path steps) name := List.foldl_concat ..

theorem components_below (h : ∀ name ∈ steps, IsName name) (path : String) :
    components (below path steps) = components path ++ steps := by
  induction steps generalizing path with
  | nil => rw [List.append_nil]; rfl
  | cons name rest ih =>
    obtain ⟨hname, hrest⟩ := List.forall_mem_cons.1 h
    show components (below (join path name) rest) = _
    rw [ih hrest, hname.components_join, List.append_assoc]
    rfl

theorem isAbsolute_below (h : ∀ name ∈ steps, IsName name) {path : String} (hpath : path ≠ "") :
    isAbsolute (below path steps) = isAbsolute path := by
  induction steps generalizing path with
  | nil => rfl
  | cons name rest ih =>
    obtain ⟨hname, hrest⟩ := List.forall_mem_cons.1 h
    exact (ih hrest (hname.join_ne_empty path)).trans (hname.isAbsolute_join hpath)

theorem endsInSlash_below (h : ∀ name ∈ steps, IsName name) (hne : steps ≠ []) (path : String) :
    endsInSlash (below path steps) = false := by
  obtain ⟨init, name, rfl⟩ := (List.eq_nil_or_concat steps).resolve_left hne
  rw [List.concat_eq_append, below_concat]
  exact (h name (by simp)).endsInSlash_join _

private theorem isAbsolute_intercalate (h : ∀ name ∈ steps, IsName name) :
    isAbsolute ("/".intercalate steps) = false := by
  match steps with
  | [] => rfl
  | [name] => exact (h name (List.mem_cons_self ..)).isAbsolute
  | name :: next :: rest =>
    have hname := h name (List.mem_cons_self ..)
    rw [String.intercalate_cons_cons, String.append_assoc, isAbsolute_append hname.ne_empty, hname.isAbsolute]

/-- Steps joined with slashes and then to a path. -/
theorem join_intercalate (h : ∀ name ∈ steps, IsName name) (hne : steps ≠ []) (path : String) :
    join path ("/".intercalate steps) = below path steps := by
  induction steps generalizing path with
  | nil => exact absurd rfl hne
  | cons name rest ih =>
    obtain ⟨hname, hrest⟩ := List.forall_mem_cons.1 h
    cases rest with
    | nil => rw [String.intercalate_singleton]; rfl
    | cons next rest =>
      rw [String.intercalate_cons_cons, ← hname.join_join path (isAbsolute_intercalate hrest),
        ih hrest (List.cons_ne_nil _ _)]
      rfl

end

/-! ### The order of paths -/

/-- The order of paths: component by component, each by its bytes. -/
def Before (p q : String) : Prop := (components p).map Text.bytesOf < (components q).map Text.bytesOf

private theorem le_iff (steps steps' : List String) : le steps steps' = true ↔ ¬ steps' < steps := by
  induction steps generalizing steps' with
  | nil => exact iff_of_true rfl (List.not_lt_nil steps')
  | cons name rest ih =>
    cases steps' with
    | nil => exact iff_of_false Bool.false_ne_true fun h => h (List.nil_lt_cons ..)
    | cons name' rest' =>
      have hcons : le (name :: rest) (name' :: rest') = true ↔ name < name' ∨ name = name' ∧ ¬ rest' < rest := by
        simp [le, ih]
      exact hcons.trans List.cons_le_cons_iff.symm

theorem le_trans (a b c : List String) (hab : le a b = true) (hbc : le b c = true) : le a c = true :=
  (le_iff ..).2 (List.le_trans ((le_iff ..).1 hab) ((le_iff ..).1 hbc))

theorem le_total (a b : List String) : (le a b || le b a) = true := by
  rw [Bool.or_eq_true, le_iff, le_iff]
  exact List.le_total a b

theorem le_antisymm {a b : List String} (hab : le a b = true) (hba : le b a = true) : a = b :=
  List.le_antisymm ((le_iff ..).1 hab) ((le_iff ..).1 hba)

theorem pairwise_mergeSort_le (l : List (List String)) : (l.mergeSort le).Pairwise fun a b => le a b = true :=
  List.pairwise_mergeSort le_trans le_total l

theorem lt_of_le {steps steps' : List String} (h : le steps steps' = true) (hne : steps ≠ steps') :
    steps < steps' := by
  by_contra hlt
  exact hne (le_antisymm h ((le_iff ..).2 hlt))

theorem before_below {steps steps' : List String} (h : ∀ name ∈ steps, IsName name) (h' : ∀ name ∈ steps', IsName name)
    (hlt : steps < steps') (path : String) : Before (below path steps) (below path steps') := by
  unfold Before
  rw [components_below h, components_below h', List.map_append, List.map_append]
  exact List.append_left_lt (List.map_lt (fun _ _ => Text.bytesOf_lt) hlt)

end GuardedCrud.Storage.Path
