import GuardedCrud.Proofs.Schema.LineLayout
import GuardedCrud.Proofs.Schema.Lookahead

/-!
# Schemas in fragments

A fragment is a schema text whose last token is no documentation comment.  Fragments with a line end between them are
the schema of all their blocks, one fragment after the other (`ofText_intercalate`):

* no token reaches over the line end behind a fragment, so the tokens are those of the fragments
  (`tokens?_append_newline`);
* no reader of a block looks beyond the tokens it takes (`ReadsLocally`), so the blocks of a fragment are read alike
  whatever follows them (`readBlocks_append`).
-/

namespace GuardedCrud.Schema

/-! ### Tokens -/

/-- Behind a text that was scanned, a line end and more add only tokens of their own. -/
theorem tokens?_append_newline {n : Nat} {cs : List Char} {ts : List Placed} (h : scanFrom n cs = .ok ts) (m : Nat)
    (rest : List Char) : tokens? (scanFrom n (cs ++ '\n' :: rest)) =
      (tokens? (scanFrom m rest)).map (ts.map (·.token) ++ ·) := by
  replace h := scans_of_scanFrom h
  induction h with
  | nil n =>
    have hgap : lexeme '\n' rest = (.gap, rest) := lexeme_of_lexes (.blank (by decide))
    rw [List.nil_append, scanFrom_gap n hgap, tokens?_scanFrom _ m]
    simp
  | gap hx _ ih =>
    have hx' := lexeme_of_lexes ((lexes_iff.2 hx).before_newline (by simp) rest)
    rw [List.cons_append, scanFrom_gap _ hx', ih]
  | token hx _ ih =>
    have hx' := lexeme_of_lexes ((lexes_iff.2 hx).before_newline (by simp) rest)
    rw [List.cons_append, scanFrom_token _ hx', tokens?_map_cons, ih, Option.map_map]
    rfl

/-! ### Blocks -/

/-- A documentation comment. -/
def Token.isDoc : Token → Bool
  | .doc _ => true
  | _ => false

/-- The last token is a documentation comment. -/
def endsInDoc (ts : List Placed) : Bool := ts.getLast?.any fun t => t.token.isDoc

/-- A schema with the models and enums of another one behind its own. -/
def Structure.append (s s' : Structure) : Structure := ⟨s.models ++ s'.models, s.enums ++ s'.enums⟩

private theorem endsInDoc_of_append {ts us : List Placed} (h : endsInDoc (ts ++ us) = false) :
    endsInDoc us = false := by
  unfold endsInDoc at h ⊢
  rw [List.getLast?_append] at h
  cases hu : us.getLast? with
  | none => rfl
  | some t => rwa [hu] at h

/-- Behind the last block nothing is pending, so the blocks after it are read as if they began the schema. -/
theorem readBlocks_append {docs : List String} {ts : List Placed} {s : Structure} (h : readBlocks docs ts = .ok s)
    (hdocs : ts = [] → docs = []) (hend : endsInDoc ts = false) (more : List Placed) :
    readBlocks docs (ts ++ more) = (readBlocks [] more).map s.append := by
  have hmap : ∀ (f : Structure → Structure) (s₁ s₂ : Structure), (∀ s', f (s₁.append s') = s₂.append s') →
      ((readBlocks [] more).map s₁.append).map f = (readBlocks [] more).map s₂.append := by
    intro f s₁ s₂ hf
    cases readBlocks [] more with
    | error e => rfl
    | ok s' => exact congrArg Except.ok (hf s')
  fun_induction readBlocks docs ts generalizing s with
  | case1 docs =>
    cases h
    rw [hdocs rfl, List.nil_append]
    cases readBlocks [] more <;> rfl
  | case2 docs t ts text ht ih =>
    have hne : ts ≠ [] := by
      rintro rfl
      rw [endsInDoc, List.getLast?_singleton, Option.any_some, ht] at hend
      cases hend
    rw [List.cons_append, readBlocks_doc _ _ ht]
    exact ih h (fun he => absurd he hne) (endsInDoc_of_append (show endsInDoc ([t] ++ ts) = false from hend))
  | case3 => cases h
  | case4 docs t ts m rest h₁ _ _ hk ih =>
    obtain ⟨s₁, h₂, rfl⟩ := exists_of_map_eq_ok h
    obtain ⟨b, -, hb, -⟩ := cutBlock_of_readModel hk h₁
    rw [hb] at hend
    rw [List.cons_append, readBlocks_block _ _ hk]
    dsimp only
    rw [(readModel_local ..).append h₁]
    dsimp only
    rw [ih h₂ (fun _ => rfl) (endsInDoc_of_append hend)]
    exact hmap _ _ _ fun _ => rfl
  | case5 => cases h
  | case6 docs t ts name rest h₁ _ _ hk ih =>
    obtain ⟨s₁, h₂, rfl⟩ := exists_of_map_eq_ok h
    obtain ⟨b, -, hb, -⟩ := cutBlock_of_readOtherBlock hk (by simp) h₁
    rw [hb] at hend
    rw [List.cons_append, readBlocks_block _ _ hk]
    dsimp only
    rw [(readOtherBlock_local ..).append h₁]
    dsimp only
    rw [ih h₂ (fun _ => rfl) (endsInDoc_of_append hend)]
    exact hmap _ _ _ fun _ => rfl
  | case7 => cases h
  | case8 docs t ts name rest h₁ _ _ hk ih =>
    obtain ⟨b, -, hb, -⟩ := cutBlock_of_readOtherBlock hk (by simp) h₁
    rw [hb] at hend
    rw [List.cons_append, readBlocks_block _ _ hk]
    dsimp only
    rw [(readOtherBlock_local ..).append h₁]
    exact ih h (fun _ => rfl) (endsInDoc_of_append hend)
  | case9 => cases h

/-! ### Texts -/

/-- A schema text of its own whose last token, if it has one, is no documentation comment. -/
structure IsFragment (text : String) (s : Structure) : Prop where
  accepted : Structure.ofText text = .ok s
  closed : (scan text).toOption.any endsInDoc = false

/-- A fragment, a line end and a schema text are the schema of the blocks of both, up to the lines of models. -/
theorem IsFragment.append_newline {text more : String} {s s' : Structure} (h : IsFragment text s)
    (hmore : Structure.ofText more = .ok s') : ∃ s'', Structure.ofText (text ++ "\n" ++ more) = .ok s'' ∧
      s''.unnumbered = (s.append s').unnumbered := by
  obtain ⟨haccepted, hclosed⟩ := h
  unfold Structure.ofText at haccepted hmore ⊢
  cases hts : scan text with
  | error e => rw [hts] at haccepted; cases haccepted
  | ok ts =>
    cases hus : scan more with
    | error e => rw [hus] at hmore; cases hmore
    | ok us =>
      rw [hts] at haccepted hclosed
      rw [hus] at hmore
      dsimp only at haccepted hmore
      have hblocks : readBlocks [] (ts ++ us) = .ok (s.append s') := by
        rw [readBlocks_append haccepted (fun _ => rfl) hclosed, hmore]
        rfl
      have hjoin : (text ++ "\n" ++ more).toList = text.toList ++ '\n' :: more.toList := by
        rw [String.toList_append, String.toList_append, List.append_assoc]
        rfl
      have htokens : tokens? (scan (text ++ "\n" ++ more)) = some ((ts ++ us).map (·.token)) := by
        rw [scan, hjoin, tokens?_append_newline hts 1, ← scan, hus, List.map_append]
        rfl
      cases hvs : scan (text ++ "\n" ++ more) with
      | error e => rw [hvs] at htokens; cases htokens
      | ok vs =>
        rw [hvs] at htokens
        exact readBlocks_alike (Option.some.inj htokens).symm hblocks

/-- The models and enums of some schemas, one schema after the other. -/
def Structure.concat (ss : List Structure) : Structure := ⟨ss.flatMap (·.models), ss.flatMap (·.enums)⟩

private theorem Structure.unnumbered_append (s s' : Structure) :
    (s.append s').unnumbered = s.unnumbered.append s'.unnumbered := by
  unfold unnumbered append
  rw [List.map_append]

/-- Fragments with line ends between them are the schema of their blocks, up to the lines of models. -/
theorem ofText_intercalate {fs : List String} {st : String → Structure} (h : ∀ f ∈ fs, IsFragment f (st f)) :
    ∃ s, Structure.ofText ("\n".intercalate fs) = .ok s ∧
      s.unnumbered = (Structure.concat (fs.map st)).unnumbered := by
  induction fs with
  | nil => exact ⟨⟨[], []⟩, by decide +kernel, rfl⟩
  | cons f fs ih =>
    have hf := h f (by simp)
    cases fs with
    | nil =>
      refine ⟨st f, hf.accepted, ?_⟩
      simp [Structure.concat, Structure.unnumbered]
    | cons g fs =>
      obtain ⟨s, hs, hconcat⟩ := ih fun g hg => h g (by simp [hg])
      obtain ⟨s', hs', happend⟩ := hf.append_newline hs
      refine ⟨s', by rw [String.intercalate_cons_cons, hs'], ?_⟩
      rw [happend, Structure.unnumbered_append, hconcat, ← Structure.unnumbered_append]
      rfl

end GuardedCrud.Schema
