import Mathlib.Data.List.Basic
import GuardedCrud.Schema.Line

/-!
# The documentation of the first declaration

The pass that looks for the documentation of a model ends on the first row that declares it, and every declaration
before that row drops what is pending.  So the documentation of a model is that of the rows between its first
declaration and the last declaration before it (`documentationOf_of_declaresFirst`), and nothing else of the text
matters to it: neither the lines behind the declaration, nor the lines before the declaration before it, as long as they
close their blocks and do not declare the model.
-/

namespace GuardedCrud.Schema

open GuardedCrud.Text

/-! ### Rows that declare models -/

/-- Some model is declared on the row. -/
def Declares (kinds : List LineKind) (row : Nat) : Prop := ∃ name, kinds[row]? = some (.declaration name)

/-- The row is the first one on which the model is declared. -/
def DeclaresFirst (kinds : List LineKind) (model : String) (row : Nat) : Prop :=
  kinds[row]? = some (.declaration model) ∧ ∀ i < row, kinds[i]? ≠ some (.declaration model)

/-- Of the rows before `row` on which some model is declared, `last` is the last one. -/
def LastDeclaresBefore (kinds : List LineKind) (row last : Nat) : Prop :=
  last < row ∧ Declares kinds last ∧ ∀ i, last < i → i < row → ¬ Declares kinds i

/-- What a documentation line says. -/
def LineKind.text? : LineKind → Option String
  | .documentation text => some text
  | _ => none

/-- The documentation lines from the row `start` on and before the row `stop`. -/
def docsBetween (kinds : List LineKind) (start stop : Nat) : List String :=
  ((kinds.take stop).drop start).filterMap LineKind.text?

/-- The brace depth after lines that begin at a depth. -/
def linesDepth (depth : Nat) (ls : List (List Char)) : Nat := ls.foldl depthAfter depth

/-! ### The pass over the kinds of lines -/

section

variable {model : String} {pending : List String} {before between after : List LineKind}

private theorem attachedDocs_eq_none_iff {kinds : List LineKind} :
    attachedDocs model pending kinds = none ↔ .declaration model ∉ kinds := by
  induction kinds generalizing pending with
  | nil => simp [attachedDocs]
  | cons k kinds ih =>
    cases k with
    | declaration name =>
      by_cases hn : name = model
      · simp [attachedDocs, hn]
      · have hne : model ≠ name := fun h => hn h.symm
        simp [attachedDocs, hn, hne, ih]
    | documentation text => simp [attachedDocs, ih]
    | other => simp [attachedDocs, ih]

/-- Without a declaration in between, all documentation up to a declaration of the model is pending there. -/
private theorem attachedDocs_between (hbetween : ∀ name, .declaration name ∉ between) :
    attachedDocs model pending (between ++ .declaration model :: after) =
      some (pending ++ between.filterMap LineKind.text?) := by
  induction between generalizing pending with
  | nil => simp [attachedDocs]
  | cons k between ih =>
    have hrest : ∀ name, .declaration name ∉ between := by
      intro name hm
      exact hbetween name (by simp [hm])
    cases k with
    | declaration name => exact absurd (by simp) (hbetween name)
    | documentation text =>
      rw [List.cons_append, attachedDocs, ih hrest]
      simp [LineKind.text?]
    | other =>
      rw [List.cons_append, attachedDocs, ih hrest]
      rfl

/-- The declaration of another model drops all that is pending. -/
private theorem attachedDocs_behind {other : String} (hbefore : .declaration model ∉ before) (hother : other ≠ model) :
    attachedDocs model pending (before ++ .declaration other :: after) = attachedDocs model [] after := by
  induction before generalizing pending with
  | nil => simp [attachedDocs, hother]
  | cons k before ih =>
    simp only [List.mem_cons, not_or] at hbefore
    cases k with
    | declaration name =>
      have hname : name ≠ model := fun h => hbefore.1 (by rw [h])
      rw [List.cons_append, attachedDocs, if_neg hname, ih hbefore.2]
    | documentation text => rw [List.cons_append, attachedDocs, ih hbefore.2]
    | other => rw [List.cons_append, attachedDocs, ih hbefore.2]

/-- The pass ends on the first declaration of the model. -/
private theorem attachedDocs_ends (hbefore : .declaration model ∉ before) (after' : List LineKind) :
    attachedDocs model pending (before ++ .declaration model :: after) =
      attachedDocs model pending (before ++ .declaration model :: after') := by
  induction before generalizing pending with
  | nil => simp [attachedDocs]
  | cons k before ih =>
    simp only [List.mem_cons, not_or] at hbefore
    cases k with
    | declaration name =>
      have hname : name ≠ model := fun h => hbefore.1 (by rw [h])
      simp only [List.cons_append, attachedDocs, if_neg hname, ih hbefore.2]
    | documentation text => simp only [List.cons_append, attachedDocs, ih hbefore.2]
    | other => simp only [List.cons_append, attachedDocs, ih hbefore.2]

end

/-! ### Rows as parts of the text -/

section

variable {kinds : List LineKind} {model : String} {row last : Nat}

private theorem eq_take_append_of_getElem? {α : Type} {as : List α} {i : Nat} {a : α} (h : as[i]? = some a) :
    as = as.take i ++ a :: as.drop (i + 1) := by
  obtain ⟨hi, rfl⟩ := List.getElem?_eq_some_iff.1 h
  rw [← List.drop_eq_getElem_cons hi, List.take_append_drop]

private theorem notMem_take {k : LineKind} (h : ∀ i < row, kinds[i]? ≠ some k) : k ∉ kinds.take row := by
  intro hm
  obtain ⟨i, hi⟩ := List.mem_iff_getElem?.1 hm
  rw [List.getElem?_take] at hi
  split at hi
  · rename_i hlt
    exact h i hlt hi
  · cases hi

/-- Before the first declaration of a model stand the rows before the last declaration, that declaration, and rows
without one. -/
private theorem LastDeclaresBefore.exists_split (h : LastDeclaresBefore kinds row last)
    (hrow : DeclaresFirst kinds model row) : ∃ other, other ≠ model ∧
      (kinds.take (row + 1)).drop last =
        .declaration other :: ((kinds.take row).drop (last + 1) ++ [.declaration model]) ∧
      ∀ name, .declaration name ∉ (kinds.take row).drop (last + 1) := by
  obtain ⟨hlt, ⟨other, hother⟩, hlast⟩ := h
  have hother' : (kinds.take row)[last]? = some (.declaration other) := by rw [List.getElem?_take_of_lt hlt, hother]
  refine ⟨other, ?_, ?_, ?_⟩
  · rintro rfl
    exact hrow.2 last hlt hother
  · have htake : kinds.take (row + 1) = kinds.take row ++ [.declaration model] := by
      rw [List.take_add_one, hrow.1]
      rfl
    obtain ⟨hlen, hget⟩ := List.getElem?_eq_some_iff.1 hother'
    rw [htake, List.drop_append_of_le_length (Nat.le_of_lt hlen), List.drop_eq_getElem_cons hlen, hget]
    rfl
  · intro name hm
    obtain ⟨i, hi⟩ := List.mem_iff_getElem?.1 hm
    rw [List.getElem?_drop, List.getElem?_take] at hi
    split at hi
    · rename_i hlt'
      exact hlast _ (by omega) hlt' ⟨name, hi⟩
    · cases hi

/-- The rows between the last declaration and the first declaration of the model are its documentation, whatever stands
before the one and behind the other. -/
private theorem LastDeclaresBefore.attachedDocs_eq (h : LastDeclaresBefore kinds row last)
    (hrow : DeclaresFirst kinds model row) {before : List LineKind} (hbefore : .declaration model ∉ before)
    (after : List LineKind) :
    attachedDocs model [] (before ++ ((kinds.take (row + 1)).drop last ++ after)) =
      some (docsBetween kinds (last + 1) row) := by
  obtain ⟨other, hother, hsplit, hbetween⟩ := h.exists_split hrow
  rw [hsplit, List.cons_append, attachedDocs_behind hbefore hother, List.append_assoc, List.singleton_append,
    attachedDocs_between hbetween, List.nil_append, docsBetween]

/-- Without an earlier declaration all rows before the first declaration of the model are its documentation. -/
private theorem DeclaresFirst.attachedDocs_eq (hrow : DeclaresFirst kinds model row)
    (h : ∀ i < row, ¬ Declares kinds i) : attachedDocs model [] kinds = some (docsBetween kinds 0 row) := by
  have hbetween : ∀ name, .declaration name ∉ kinds.take row := by
    intro name
    apply notMem_take
    intro i hi hname
    exact h i hi ⟨name, hname⟩
  have hkinds := eq_take_append_of_getElem? hrow.1
  rw [hkinds, attachedDocs_between hbetween, ← hkinds, List.nil_append, docsBetween, List.drop_zero]

end

/-! ### Lines in the place of others -/

private theorem lineKinds_append_lines (depth : Nat) (ls ls' : List (List Char)) :
    lineKinds depth (ls ++ ls') = lineKinds depth ls ++ lineKinds (linesDepth depth ls) ls' := by
  induction ls generalizing depth with
  | nil => rfl
  | cons l ls ih =>
    rw [List.cons_append, lineKinds, lineKinds, ih]
    rfl

private theorem take_lineKinds (depth n : Nat) (ls : List (List Char)) :
    (lineKinds depth ls).take n = lineKinds depth (ls.take n) := by
  induction ls generalizing depth n with
  | nil => simp [lineKinds]
  | cons l ls ih =>
    cases n with
    | zero => rfl
    | succ n => rw [lineKinds, List.take_succ_cons, List.take_succ_cons, lineKinds, ih]

private theorem drop_lineKinds (depth n : Nat) (ls : List (List Char)) :
    (lineKinds depth ls).drop n = lineKinds (linesDepth depth (ls.take n)) (ls.drop n) := by
  induction ls generalizing depth n with
  | nil => simp [lineKinds]
  | cons l ls ih =>
    cases n with
    | zero => rfl
    | succ n =>
      rw [lineKinds, List.drop_succ_cons, ih]
      rfl

/-- A row that declares a model stands outside every block. -/
private theorem Declares.linesDepth_take {depth row : Nat} {ls : List (List Char)}
    (h : Declares (lineKinds depth ls) row) : linesDepth depth (ls.take row) = 0 := by
  obtain ⟨name, hrow⟩ := h
  have hdrop : (lineKinds depth ls)[row]? = ((lineKinds depth ls).drop row)[0]? := by
    rw [List.getElem?_drop, Nat.add_zero]
  rw [hdrop, drop_lineKinds] at hrow
  cases hls : ls.drop row with
  | nil =>
    rw [hls] at hrow
    cases hrow
  | cons l rest =>
    rw [hls, lineKinds, List.getElem?_cons_zero, LineKind.atDepth] at hrow
    by_contra hdepth
    rw [if_neg hdepth] at hrow
    cases hrow

/-- The documentation of a model is that of the rows between its first declaration and the last declaration before it;
a text that does not declare the model has none.  Any lines may stand behind the first declaration, and any lines that
leave every block closed and do not declare the model may stand before the declaration before it. -/
theorem documentationOf_of_declaresFirst (source model : String) :
    (documentationOf source model = none ↔ .declaration model ∉ sourceKinds source) ∧
    ∀ row, DeclaresFirst (sourceKinds source) model row →
      ((∀ i < row, ¬ Declares (sourceKinds source) i) →
        documentationOf source model = some (docsBetween (sourceKinds source) 0 row)) ∧
      (∀ last, LastDeclaresBefore (sourceKinds source) row last →
        documentationOf source model = some (docsBetween (sourceKinds source) (last + 1) row)) ∧
      (∀ (source' : String) (after : List (List Char)),
        lines source'.toList = (lines source.toList).take (row + 1) ++ after →
          documentationOf source' model = documentationOf source model) ∧
      ∀ last, LastDeclaresBefore (sourceKinds source) row last →
        ∀ (source' : String) (before after : List (List Char)),
        lines source'.toList = before ++ (((lines source.toList).take (row + 1)).drop last ++ after) →
          .declaration model ∉ lineKinds 0 before → linesDepth 0 before = 0 →
            documentationOf source' model = documentationOf source model := by
  refine ⟨attachedDocs_eq_none_iff, fun row hrow => ?_⟩
  have hdocs : ∀ last, LastDeclaresBefore (sourceKinds source) row last →
      documentationOf source model = some (docsBetween (sourceKinds source) (last + 1) row) := by
    intro last h
    have hbefore : .declaration model ∉ (sourceKinds source).take last :=
      notMem_take fun i hi => hrow.2 i (by have := h.1; omega)
    have hdocs := h.attachedDocs_eq hrow hbefore ((sourceKinds source).drop (row + 1))
    -- the three parts are all rows of the text
    have htake : (sourceKinds source).take last = ((sourceKinds source).take (row + 1)).take last := by
      rw [List.take_take, Nat.min_eq_left (by have := h.1; omega)]
    rw [← List.append_assoc, htake, List.take_append_drop, List.take_append_drop] at hdocs
    exact hdocs
  refine ⟨fun h => hrow.attachedDocs_eq h, hdocs, ?_, ?_⟩
  · intro source' after hlines
    have hbefore : .declaration model ∉ (sourceKinds source).take row := notMem_take hrow.2
    have hkinds := eq_take_append_of_getElem? hrow.1
    have htake : (sourceKinds source).take (row + 1) = (sourceKinds source).take row ++ [.declaration model] := by
      rw [List.take_add_one, hrow.1]
      rfl
    rw [documentationOf, documentationOf, hkinds, sourceKinds, hlines, lineKinds_append_lines, ← take_lineKinds]
    change attachedDocs model [] ((sourceKinds source).take (row + 1) ++ _) = _
    rw [htake, List.append_assoc, List.singleton_append]
    exact attachedDocs_ends hbefore _
  · intro last h source' before after hlines hbefore hdepth
    have hlast : linesDepth 0 ((lines source.toList).take last) = 0 := h.2.1.linesDepth_take
    have hmid : lineKinds 0 (((lines source.toList).take (row + 1)).drop last) =
        ((sourceKinds source).take (row + 1)).drop last := by
      rw [sourceKinds, take_lineKinds, drop_lineKinds, List.take_take, Nat.min_eq_left (by have := h.1; omega), hlast]
    rw [hdocs last h, documentationOf, sourceKinds, hlines, lineKinds_append_lines, hdepth, lineKinds_append_lines,
      hmid]
    exact h.attachedDocs_eq hrow hbefore _

/-- A schema that declares `B` twice, with a brace that closes nothing among the comments before it. -/
def twiceDeclared : String :=
  "/// first\nmodel A \x7b id Int \x7d\n/// plain\n\x7d\n/// keys\nmodel B \x7b\n  /// inner\n  id Int\n\x7d\n" ++
    "/// late\nmodel B \x7b id Int \x7d\n"

/-- What the lines of `twiceDeclared` are. -/
def twiceDeclaredKinds : List LineKind :=
  [.documentation "first", .declaration "A", .documentation "plain", .other, .documentation "keys", .declaration "B",
    .other, .other, .other, .documentation "late", .declaration "B"]

/-- Other lines before the declaration of `A`, and none behind that of `B`, which stays open. -/
def cutAfterDeclaration : String :=
  "enum E \x7b\n  X\n\x7d\r\n\x7d\nmodel A \x7b id Int \x7d\n/// plain\n\x7d\n/// keys\nmodel B \x7b"

/-- The documentation of `B` in `twiceDeclared` is that between the declaration of `A` and the first one of `B`. -/
theorem documentationOf_twiceDeclared :
    DeclaresFirst (sourceKinds twiceDeclared) "B" 5 ∧ LastDeclaresBefore (sourceKinds twiceDeclared) 5 1 ∧
      documentationOf twiceDeclared "A" = some ["first"] ∧ documentationOf twiceDeclared "B" = some ["plain", "keys"] ∧
      documentationOf cutAfterDeclaration "B" = some ["plain", "keys"] := by
  have htext : twiceDeclared.toList = _ :=
    String.toList_append.trans (congrArg₂ (· ++ ·) String.toList_ofList String.toList_ofList)
  have hcut : cutAfterDeclaration.toList = _ := String.toList_ofList
  have hkinds : sourceKinds twiceDeclared = twiceDeclaredKinds := by
    rw [sourceKinds, htext]
    decide
  have hA : documentationOf twiceDeclared "A" = some ["first"] := by
    have hfirst : DeclaresFirst (sourceKinds twiceDeclared) "A" 1 := by
      rw [hkinds]
      exact ⟨by decide, by decide⟩
    obtain ⟨hdocs, -⟩ := (documentationOf_of_declaresFirst twiceDeclared "A").2 1 hfirst
    rw [hkinds] at hdocs
    apply hdocs
    rintro i hi ⟨name, hname⟩
    obtain rfl : i = 0 := by omega
    cases hname
  have hfirst : DeclaresFirst (sourceKinds twiceDeclared) "B" 5 := by
    rw [hkinds]
    exact ⟨by decide, by decide⟩
  have hlast : LastDeclaresBefore (sourceKinds twiceDeclared) 5 1 := by
    rw [hkinds]
    refine ⟨by omega, ⟨"A", rfl⟩, ?_⟩
    rintro i hi hi' ⟨name, hname⟩
    have : i = 2 ∨ i = 3 ∨ i = 4 := by omega
    rcases this with rfl | rfl | rfl <;> cases hname
  obtain ⟨-, hdocs, -, hreplaced⟩ := (documentationOf_of_declaresFirst twiceDeclared "B").2 5 hfirst
  have hB : documentationOf twiceDeclared "B" = some ["plain", "keys"] := by
    rw [hdocs 1 hlast, hkinds]
    rfl
  refine ⟨hfirst, hlast, hA, hB, ?_⟩
  rw [← hB]
  -- the lines of `A` and `B` and those between them are kept
  apply hreplaced 1 hlast cutAfterDeclaration ((lines cutAfterDeclaration.toList).take 4) []
  · rw [hcut, htext]
    decide
  · rw [hcut]
    decide
  · rw [hcut]
    decide

end GuardedCrud.Schema
