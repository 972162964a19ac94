import GuardedCrud.Proofs.Schema.Changes

/-!
# The grammar does not see the lines of tokens

The lines of keywords are the only ones that a structure shows, and a fault shows one line.  The same tokens on any lines
give the same structure up to the lines of its models, or the same fault up to its line (`readBlocks_congr_lines`).
-/

namespace GuardedCrud.Schema

/-- The same tokens, on any lines. -/
def SameTokens (ts us : List Placed) : Prop := ts.map (·.token) = us.map (·.token)

/-- The model as if its keyword stood on line zero. -/
def ModelDecl.unnumbered (m : ModelDecl) : ModelDecl := { m with line := 0 }

/-- The structure without the lines of its models. -/
def Structure.unnumbered (s : Structure) : Structure := { s with models := s.models.map ModelDecl.unnumbered }

/-- The fault as if it were about line zero. -/
def Fault.unnumbered : Fault → Fault
  | .unexpectedChar _ c => .unexpectedChar 0 c
  | .unterminatedText _ => .unterminatedText 0
  | .unexpected _ found expected => .unexpected 0 found expected
  | .missingType _ field => .missingType 0 field
  | .unterminatedBlock _ name => .unterminatedBlock 0 name
  | .unexpectedEnd expected => .unexpectedEnd expected

/-- What the reader of a schema gives, without lines. -/
def unnumbered : Except Fault Structure → Except Fault Structure
  | .ok s => .ok s.unnumbered
  | .error e => .error e.unnumbered

private theorem relined_zero (x : Except Fault Structure) : relined (fun _ => 0) x = unnumbered x := by
  cases x with
  | ok s => rfl
  | error e =>
    refine congrArg Except.error ?_
    cases e with
    | unexpected line found expected => exact congrArg (Fault.unexpected 0 · expected) (Change.lines_token _ found)
    | _ => rfl

/-- The same tokens give the same structure or the same fault, up to lines. -/
theorem readBlocks_congr_lines {ts us : List Placed} (h : SameTokens ts us) (docs : List String) :
    unnumbered (readBlocks docs ts) = unnumbered (readBlocks docs us) := by
  have hmap : ∀ vs : List Placed, vs.map (Change.lines fun _ => 0).placed = (vs.map (·.token)).map (⟨·, 0⟩) := by
    intro vs
    rw [List.map_map]
    exact List.map_congr_left fun v _ => Change.lines_placed _ v
  rw [← relined_zero, ← relined_zero, ← readBlocks_relined, ← readBlocks_relined, hmap, hmap]
  exact congrArg (fun vs => readBlocks docs (vs.map (⟨·, 0⟩))) h

/-- The same tokens give the same structure, up to the lines of its models. -/
theorem readBlocks_alike {docs : List String} {ts us : List Placed} {s : Structure} (hs : SameTokens ts us)
    (h : readBlocks docs ts = .ok s) : ∃ s', readBlocks docs us = .ok s' ∧ s'.unnumbered = s.unnumbered := by
  have hlines := readBlocks_congr_lines hs docs
  rw [h] at hlines
  cases hus : readBlocks docs us with
  | error e => rw [hus] at hlines; cases hlines
  | ok s' =>
    rw [hus] at hlines
    exact ⟨s', rfl, (Except.ok.inj hlines).symm⟩

end GuardedCrud.Schema
