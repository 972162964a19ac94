import GuardedCrud.Proofs.Schema.Lookahead
import Mathlib.Data.Nat.Find

/-!
# Places among the tokens

What a schema shows of its tokens comes from one place each:

* a fault about a token is about the one that settles it (`Settles`): all fronts of the tokens with that token have the
  fault, and not all fronts with the token before it (`exists_settles`);
* an unclosed block begins where the longest accepted front ends (`exists_longestAccepted`);
* a model begins where the front with the models before it ends (`exists_keyword_of_model`).

The three go through the pieces of a schema, one after the other.  `Leads` says what the reader does with the next piece.
-/

namespace GuardedCrud.Schema

/-! ### One piece after the other -/

/-- What the reader of a schema does at the token `t` before other tokens: it keeps a comment, reads a block and goes on
behind it, or is stuck. -/
inductive Leads (docs : List String) (t : Placed) : List Placed → Prop
  | comment {text ts} : t.token = .doc text → Leads docs t ts
  /-- A block with at most one model `new`, of the name after the keyword. -/
  | block {name n used rest} {add : Structure → Structure} {new : Option ModelDecl} :
    (∀ more, readBlocks docs (t :: ⟨.ident name, n⟩ :: (used ++ more)) = (readBlocks [] more).map add) →
    (∀ s, (add s).models = new.toList ++ s.models) →
    (∀ m ∈ new, t.token.block? = some .model ∧ m.line = t.line ∧ m.name = name) →
    Leads docs t (⟨.ident name, n⟩ :: (used ++ rest))
  /-- No front of the tokens is accepted, and the fault is found again where its token stands. -/
  | stuck {e ts} (used rest) : t :: ts = used ++ rest → e.StandsAt rest →
    (∀ rest', e.StandsAt rest' → readBlocks docs (used ++ rest') = .error e) →
    (∀ k s, readBlocks docs (t :: ts.take k) ≠ .ok s) →
    (∀ line name, e = .unterminatedBlock line name → t.token.block?.isSome ∧ OpensBlock t.line ts line name) →
    Leads docs t ts

section

variable {docs : List String} {t : Placed} {ts : List Placed}

/-- A keyword leads as the reader of its block reads. -/
private theorem leads_of_readsLocally {α : Type} {read : List Placed → Reading α} (add : α → Structure → Structure)
    (new : α → Option ModelDecl)
    (hok : ∀ us a rest, read us = .ok (a, rest) → readBlocks docs (t :: us) = (readBlocks [] rest).map (add a))
    (herror : ∀ us e, read us = .error e → readBlocks docs (t :: us) = .error e)
    (hlocal : ∀ us, ReadsLocally false (OpensBlock t.line us) read us) (ht : t.token.block?.isSome)
    (hadd : ∀ a s, (add a s).models = (new a).toList ++ s.models)
    (hname : ∀ us a rest, read us = .ok (a, rest) → rest.length < us.length ∧ ∃ name n, us.head? = some ⟨.ident name, n⟩ ∧
      ∀ m ∈ new a, t.token.block? = some .model ∧ m.line = t.line ∧ m.name = name) (ts : List Placed) :
    Leads docs t ts := by
  cases h : read ts with
  | ok p =>
    obtain ⟨a, rest⟩ := p
    obtain ⟨used, rfl, hused⟩ := (hlocal ts).ok a rest h
    obtain ⟨hlen, name, n, hhead, hnew⟩ := hname _ a rest h
    cases used with
    | nil => exact absurd hlen (Nat.lt_irrefl _)
    | cons u used =>
      obtain rfl : u = ⟨.ident name, n⟩ := Option.some.inj hhead
      refine .block (fun more => ?_) (hadd a) hnew
      exact hok _ a more (hused more nofun)
  | error e =>
    obtain ⟨used, rest, rfl, hstands, hused⟩ := (hlocal ts).error e h
    refine .stuck (t :: used) rest (List.cons_append ..) hstands (fun rest' hrest' => ?_) (fun k s hs => ?_)
      fun line name he => ?_
    · exact herror _ e (hused rest' hrest')
    · cases hk : read ((used ++ rest).take k) with
      | error e' => rw [herror _ e' hk] at hs; cases hs
      | ok p =>
        -- what is read from a front is read from all tokens
        have happend := (hlocal ((used ++ rest).take k)).append hk ((used ++ rest).drop k)
        rw [List.take_append_drop, h] at happend
        cases happend
    · subst he
      exact ⟨ht, (hlocal _).block line name h⟩

private theorem head?_of_readModel {line : Nat} {documentation : Option String} {m : ModelDecl} {rest : List Placed}
    (h : readModel line documentation ts = .ok (m, rest)) : m.line = line ∧ ∃ n, ts.head? = some ⟨.ident m.name, n⟩ := by
  rw [readModel_eq] at h
  obtain ⟨name, ts', hname, h⟩ := Reading.andThen_eq_ok h
  obtain ⟨-, ts', -, h⟩ := Reading.andThen_eq_ok h
  obtain ⟨fields, ts', -, h⟩ := Reading.andThen_eq_ok h
  cases h
  obtain ⟨n, rfl⟩ := readName_eq_ok hname
  exact ⟨rfl, n, rfl⟩

private theorem head?_of_readOtherBlock {line : Nat} {expected name : String} {rest : List Placed}
    (h : readOtherBlock line expected ts = .ok (name, rest)) : ∃ n, ts.head? = some ⟨.ident name, n⟩ := by
  rw [readOtherBlock_eq] at h
  obtain ⟨name, ts', hname, h⟩ := Reading.andThen_eq_ok h
  obtain ⟨-, ts', -, h⟩ := Reading.andThen_eq_ok h
  obtain ⟨-, ts', -, h⟩ := Reading.andThen_eq_ok h
  cases h
  obtain ⟨n, rfl⟩ := readName_eq_ok hname
  exact ⟨n, rfl⟩

private theorem leads (docs : List String) (t : Placed) (ts : List Placed) : Leads docs t ts := by
  by_cases hdoc : ∃ text, t.token = .doc text
  · obtain ⟨text, ht⟩ := hdoc
    exact .comment ht
  cases hk : t.token.block? with
  | none =>
    have hread : ∀ us, readBlocks docs (t :: us) = .error (t.unexpected "a top-level block") := fun us =>
      readBlocks_unexpected docs us hk fun text h => hdoc ⟨text, h⟩
    have hstands := Fault.standsAt_unexpected t "a top-level block"
    refine .stuck [] (t :: ts) rfl ((hstands _).2 ⟨ts, rfl⟩) (fun rest' hrest' => ?_) (fun k s hs => ?_)
      fun _ _ he => by cases he
    · obtain ⟨after, rfl⟩ := (hstands _).1 hrest'
      exact hread after
    · rw [hread] at hs
      cases hs
  | some kind =>
    have hread := fun us => readBlocks_block docs us hk
    have hsome : t.token.block?.isSome := by rw [hk]; rfl
    -- a block that is no model is passed over, and adds none
    have hother : ∀ {expected name : String} {us rest : List Placed}, readOtherBlock t.line expected us = .ok (name, rest) →
        rest.length < us.length ∧ ∃ name n, us.head? = some ⟨.ident name, n⟩ ∧
          ∀ m ∈ (none : Option ModelDecl), t.token.block? = some .model ∧ m.line = t.line ∧ m.name = name := by
      intro expected name us rest h
      obtain ⟨n, hhead⟩ := head?_of_readOtherBlock h
      exact ⟨readOtherBlock_length h, name, n, hhead, nofun⟩
    cases kind with
    | model =>
      refine leads_of_readsLocally Structure.consModel some (fun us m rest h => by rw [hread, h])
        (fun us e h => by rw [hread, h]) (readModel_local t.line (joinDocs docs)) hsome (fun _ _ => rfl)
        (fun us m rest h => ?_) ts
      obtain ⟨hline, n, hhead⟩ := head?_of_readModel h
      refine ⟨readModel_length h, m.name, n, hhead, ?_⟩
      rintro m' ⟨⟩
      exact ⟨hk, hline, rfl⟩
    | enum =>
      exact leads_of_readsLocally Structure.consEnum (fun _ => none) (fun us m rest h => by rw [hread, h])
        (fun us e h => by rw [hread, h]) (readOtherBlock_local t.line "enum name") hsome (fun _ _ => rfl)
        (fun _ _ _ => hother) ts
    | other =>
      refine leads_of_readsLocally (fun _ => id) (fun _ => none) (fun us name rest h => ?_)
        (fun us e h => by rw [hread, h]) (readOtherBlock_local t.line "block name") hsome (fun _ _ => rfl)
        (fun _ _ _ => hother) ts
      rw [hread, h]
      dsimp only
      cases readBlocks [] rest <;> rfl

end

/-! ### Faults -/

/-- A schema that cannot be read has its fault in front of the token that the fault is about, or at its end. -/
private theorem readBlocks_standsAt {docs : List String} {ts : List Placed} {e : Fault}
    (h : readBlocks docs ts = .error e) : ∃ used rest, ts = used ++ rest ∧ e.StandsAt rest ∧
      ∀ rest', e.StandsAt rest' → readBlocks docs (used ++ rest') = .error e := by
  induction hn : ts.length using Nat.strong_induction_on generalizing docs ts with
  | _ n ih =>
    subst hn
    cases ts with
    | nil =>
      rw [readBlocks] at h
      cases h
    | cons t ts =>
      cases leads docs t ts with
      | comment ht =>
        rw [readBlocks_doc _ _ ht] at h
        obtain ⟨used, rest, rfl, hstands, hused⟩ := ih _ (by simp) h rfl
        refine ⟨t :: used, rest, rfl, hstands, fun rest' hrest' => ?_⟩
        rw [List.cons_append, readBlocks_doc _ _ ht, hused rest' hrest']
      | @block name n used rest add new hread =>
        rw [hread] at h
        cases hrest : readBlocks [] rest with
        | ok s => rw [hrest] at h; cases h
        | error e' =>
          rw [hrest] at h
          cases h
          obtain ⟨used', rest, rfl, hstands, hused⟩ := ih _ (by simp; omega) hrest rfl
          refine ⟨t :: ⟨.ident name, n⟩ :: (used ++ used'), rest, by simp, hstands, fun rest' hrest' => ?_⟩
          rw [List.cons_append, List.cons_append, List.append_assoc, hread, hused rest' hrest']
          rfl
      | @stuck e' _ used rest hts hstands hread =>
        rw [hts, hread rest hstands] at h
        cases h
        exact ⟨used, rest, hts, hstands, hread⟩

/-- The token of an index settles the fault: from it on, all fronts of the tokens have the fault. -/
def Settles (ts : List Placed) (e : Fault) (i : Nat) : Prop :=
  ∀ k, (∀ k' ≥ k, readBlocks [] (ts.take k') = .error e) ↔ i < k

/-- A front of a fault's place with the fault's token is one. -/
theorem Fault.StandsAt.take {e : Fault} {rest : List Placed} (h : e.StandsAt rest) {k : Nat} (hk : 0 < k) :
    e.StandsAt (rest.take k) := by
  obtain ⟨hhead, hallows⟩ := h
  cases rest with
  | nil => simpa using ⟨hhead, hallows⟩
  | cons t rest =>
    obtain ⟨k, rfl⟩ := Nat.exists_eq_succ_of_ne_zero (by omega : k ≠ 0)
    refine ⟨hhead, fun u hu => hallows u ?_⟩
    cases rest with
    | nil => simp at hu
    | cons v rest =>
      cases k with
      | zero => simp at hu
      | succ k => simpa using hu

/-- A fault about a token is about the one that settles it. -/
theorem exists_settles {ts : List Placed} {e : Fault} {t : Placed} (h : readBlocks [] ts = .error e)
    (ht : e.token? = some t) : ∃ i, ts[i]? = some t ∧ Settles ts e i := by
  classical
  have hlast : ∃ k, ∀ k' ≥ k, readBlocks [] (ts.take k') = .error e :=
    ⟨ts.length, fun k' hk' => by rw [List.take_of_length_le hk']; exact h⟩
  have hfind := Nat.find_spec hlast
  have hmin : ∀ k, (∀ k' ≥ k, readBlocks [] (ts.take k') = .error e) → Nat.find hlast ≤ k := fun k hk =>
    Nat.find_min' hlast hk
  generalize Nat.find hlast = k at hfind hmin
  -- the empty front is accepted
  obtain ⟨i, rfl⟩ : ∃ i, k = i + 1 := by
    refine Nat.exists_eq_succ_of_ne_zero ?_
    rintro rfl
    have hempty := hfind 0 (Nat.le_refl 0)
    rw [List.take_zero, readBlocks] at hempty
    cases hempty
  have hearlier : readBlocks [] (ts.take i) ≠ .error e := by
    intro hi
    have := hmin i fun k' hk' => by
      rcases Nat.eq_or_lt_of_le hk' with rfl | hlt
      · exact hi
      · exact hfind k' hlt
    omega
  refine ⟨i, ?_, fun k => ⟨fun hk => hmin k hk, fun hk k' hk' => hfind k' (Nat.le_trans hk hk')⟩⟩
  obtain ⟨used, rest, htake, hstands, hread⟩ := readBlocks_standsAt (hfind (i + 1) (Nat.le_refl _))
  obtain ⟨after, rfl⟩ := List.head?_eq_some_iff.1 (hstands.1.trans ht)
  by_cases hlen : used.length < i
  · -- the front without its last token has the token of the fault, and the fault
    have hi : ts.take i = used ++ (t :: after).take (i - used.length) := by
      have htake' := congrArg (List.take i) htake
      rwa [List.take_take, Nat.min_eq_left (Nat.le_succ i), List.take_append,
        List.take_of_length_le (Nat.le_of_lt hlen)] at htake'
    exact absurd (hi ▸ hread _ (hstands.take (by omega))) hearlier
  · have hused : used.length = i := by
      have := congrArg List.length htake
      rw [List.length_take, List.length_append, List.length_cons] at this
      omega
    have hget : (ts.take (i + 1))[i]? = some t := by
      rw [htake, ← hused, List.getElem?_append_right (Nat.le_refl _), Nat.sub_self]
      rfl
    rwa [List.getElem?_take_of_lt (Nat.lt_succ_self i)] at hget

/-! ### Blocks -/

/-- An unclosed block begins where the longest accepted front ends, with a keyword and its name. -/
theorem exists_longestAccepted {docs : List String} {ts : List Placed} {line : Nat} {name : String}
    (h : readBlocks docs ts = .error (.unterminatedBlock line name)) :
    ∃ used t n rest, ts = used ++ t :: ⟨.ident name, n⟩ :: rest ∧ t.line = line ∧ t.token.block?.isSome ∧
      (∃ s, readBlocks docs used = .ok s) ∧ ∀ k, used.length < k → ∀ s, readBlocks docs (ts.take k) ≠ .ok s := by
  induction hn : ts.length using Nat.strong_induction_on generalizing docs ts with
  | _ n ih =>
    subst hn
    cases ts with
    | nil =>
      rw [readBlocks] at h
      cases h
    | cons t ts =>
      have hempty : ∃ s, readBlocks docs [] = .ok s := ⟨_, by rw [readBlocks]⟩
      cases leads docs t ts with
      | comment ht =>
        rw [readBlocks_doc _ _ ht] at h
        obtain ⟨used, u, n, rest, rfl, hu, hblock, ⟨s, hs⟩, hfronts⟩ := ih _ (by simp) h rfl
        refine ⟨t :: used, u, n, rest, rfl, hu, hblock, ⟨s, (readBlocks_doc _ _ ht).trans hs⟩, fun k hk s hks => ?_⟩
        obtain ⟨k, rfl⟩ := Nat.exists_eq_succ_of_ne_zero (by omega : k ≠ 0)
        rw [List.take_succ_cons, readBlocks_doc _ _ ht] at hks
        exact hfronts k (by simpa using hk) s hks
      | @block name' n used rest add new hread =>
        rw [hread] at h
        cases hrest : readBlocks [] rest with
        | ok s => rw [hrest] at h; cases h
        | error e =>
          rw [hrest] at h
          cases h
          obtain ⟨used', u, n', rest, rfl, hu, hblock, ⟨s, hs⟩, hfronts⟩ := ih _ (by simp; omega) hrest rfl
          refine ⟨t :: ⟨.ident name', n⟩ :: (used ++ used'), u, n', rest, by simp, hu, hblock,
            ⟨add s, by rw [hread, hs]; rfl⟩, fun k hk s hks => ?_⟩
          obtain ⟨k, rfl⟩ : ∃ k', k = used.length + k' + 2 := ⟨k - used.length - 2, by simp at hk; omega⟩
          rw [List.take_succ_cons, List.take_succ_cons, List.take_length_add_append, hread] at hks
          obtain ⟨s', hs', -⟩ := exists_of_map_eq_ok hks
          exact hfronts k (by simp at hk; omega) s' hs'
      | @stuck e _ used rest hts hstands hread hfronts hblock =>
        rw [hts, hread rest hstands] at h
        cases h
        obtain ⟨hsome, hline, n, hhead⟩ := hblock line name rfl
        obtain ⟨rest', rfl⟩ := List.head?_eq_some_iff.1 hhead
        refine ⟨[], t, n, rest', rfl, hline.symm, hsome, hempty, fun k hk s hks => ?_⟩
        obtain ⟨k, rfl⟩ := Nat.exists_eq_succ_of_ne_zero (by simp at hk; omega : k ≠ 0)
        exact hfronts k s hks

/-- A model of an accepted schema begins with its keyword and its name, and the front before it has the models before
it. -/
theorem exists_keyword_of_model {docs : List String} {ts : List Placed} {s : Structure} (h : readBlocks docs ts = .ok s)
    {j : Nat} {m : ModelDecl} (hm : s.models[j]? = some m) :
    ∃ used t n rest, ts = used ++ t :: ⟨.ident m.name, n⟩ :: rest ∧ t.line = m.line ∧ t.token.block? = some .model ∧
      ∃ s', readBlocks docs used = .ok s' ∧ s'.models = s.models.take j := by
  induction hn : ts.length using Nat.strong_induction_on generalizing docs ts s j with
  | _ n ih =>
    subst hn
    cases ts with
    | nil =>
      rw [readBlocks] at h
      cases h
      cases hm
    | cons t ts =>
      cases leads docs t ts with
      | comment ht =>
        rw [readBlocks_doc _ _ ht] at h
        obtain ⟨used, u, n, rest, rfl, hu, hblock, s', hs', hmodels⟩ := ih _ (by simp) h hm rfl
        exact ⟨t :: used, u, n, rest, rfl, hu, hblock, s', (readBlocks_doc _ _ ht).trans hs', hmodels⟩
      | @block name n used rest add new hread hadd hnew =>
        rw [hread] at h
        obtain ⟨s₁, hs₁, rfl⟩ := exists_of_map_eq_ok h
        rw [hadd] at hm ⊢
        by_cases hj : j < new.toList.length
        · -- the block is the model
          obtain ⟨m', rfl⟩ : ∃ m', new = some m' := by
            cases new with
            | none => simp at hj
            | some m' => exact ⟨m', rfl⟩
          obtain rfl : j = 0 := by simpa using hj
          obtain rfl : m' = m := by simpa using hm
          obtain ⟨hblock, hline, rfl⟩ := hnew m' rfl
          exact ⟨[], t, n, used ++ rest, rfl, hline.symm, hblock, ⟨[], []⟩, by rw [readBlocks], rfl⟩
        · rw [List.getElem?_append_right (by omega)] at hm
          obtain ⟨used', u, n', rest, rfl, hu, hblock, s', hs', hmodels⟩ := ih _ (by simp; omega) hs₁ hm rfl
          refine ⟨t :: ⟨.ident name, n⟩ :: (used ++ used'), u, n', rest, by simp, hu, hblock, add s',
            by rw [hread, hs']; rfl, ?_⟩
          rw [hadd, hmodels, List.take_append,
            List.take_of_length_le (by omega : new.toList.length ≤ j)]
      | @stuck e _ used rest hts hstands hread =>
        rw [hts, hread rest hstands] at h
        cases h

end GuardedCrud.Schema
