import GuardedCrud.Proofs.Schema.LineTokens

/-!
# The line pass from the tokens of a schema

A line of a scanned schema matters to the line pass only by the token it begins with, the token after that and the
depth of braces there.  `leadKinds` reads this off the tokens, and `lineKinds_eq_leadKinds` says that the line pass
gives the same kinds, apart from the lines that say nothing.
-/

namespace GuardedCrud.Schema

open GuardedCrud.Text

/-- The kinds that say something. -/
def telling (kinds : List LineKind) : List LineKind := kinds.filter (· ≠ .other)

/-- The name that a line declares. -/
def LineKind.declared? : LineKind → Option String
  | .declaration name => some name
  | _ => none

/-- The names that lines declare. -/
def declaredNames (kinds : List LineKind) : List String := kinds.filterMap LineKind.declared?

theorem declaredNames_nil : declaredNames [] = [] := rfl

theorem declaredNames_cons_declaration (name : String) (kinds : List LineKind) :
    declaredNames (.declaration name :: kinds) = name :: declaredNames kinds := rfl

theorem declaredNames_cons_documentation (text : String) (kinds : List LineKind) :
    declaredNames (.documentation text :: kinds) = declaredNames kinds := rfl

theorem declaredNames_cons_other (kinds : List LineKind) : declaredNames (.other :: kinds) = declaredNames kinds := rfl

theorem declaredNames_append (ks₁ ks₂ : List LineKind) :
    declaredNames (ks₁ ++ ks₂) = declaredNames ks₁ ++ declaredNames ks₂ := List.filterMap_append ..

@[simp] theorem telling_append (ks₁ ks₂ : List LineKind) : telling (ks₁ ++ ks₂) = telling ks₁ ++ telling ks₂ :=
  List.filter_append ..

theorem telling_cons (k : LineKind) (ks : List LineKind) :
    telling (k :: ks) = if k = .other then telling ks else k :: telling ks := by
  unfold telling
  rw [List.filter_cons]
  by_cases h : k = .other <;> simp [h]

theorem attachedDocs_telling (model : String) (pending : List String) (ks : List LineKind) :
    attachedDocs model pending (telling ks) = attachedDocs model pending ks := by
  induction ks generalizing pending with
  | nil => rfl
  | cons k ks ih =>
    cases k with
    | declaration name =>
      rw [telling_cons, if_neg (by simp), attachedDocs, attachedDocs, ih]
    | documentation text =>
      rw [telling_cons, if_neg (by simp), attachedDocs, attachedDocs, ih]
    | other =>
      rw [telling_cons, if_pos rfl, attachedDocs, ih]

theorem declared_telling (ks : List LineKind) :
    (telling ks).filterMap LineKind.declared? = ks.filterMap LineKind.declared? := by
  induction ks with
  | nil => rfl
  | cons k ks ih => cases k <;> simp [telling_cons, List.filterMap_cons, LineKind.declared?, ih]

/-- The kinds of the lines that begin at depth zero, read off the tokens; `last` is the line of the token before. -/
def leadKinds (last : Option Nat) (depth : Nat) : List Placed → List LineKind
  | [] => []
  | t :: ts =>
    let next := (ts.head?.filter fun u => u.line = t.line).map (·.token)
    let rest := leadKinds (some t.line) (t.token.depthAfter depth) ts
    if last = some t.line ∨ depth ≠ 0 then rest else .ofLead next t.token :: rest

/-- A token counts if it begins a line at depth zero. -/
theorem leadKinds_cons_of_ne {last : Option Nat} {t : Placed} (h : last ≠ some t.line) (ts : List Placed) :
    telling (leadKinds last 0 (t :: ts)) =
      telling [.ofLead ((ts.head?.filter fun u => u.line = t.line).map (·.token)) t.token] ++
        telling (leadKinds (some t.line) (t.token.depthAfter 0) ts) := by
  rw [leadKinds, if_neg (not_or.2 ⟨h, by simp⟩), ← telling_append]
  rfl

/-- Any other token counts only for the depth. -/
theorem leadKinds_cons_of_skipped {last : Option Nat} {depth : Nat} {t : Placed}
    (h : last = some t.line ∨ depth ≠ 0) (ts : List Placed) :
    leadKinds last depth (t :: ts) = leadKinds (some t.line) (t.token.depthAfter depth) ts := by
  rw [leadKinds, if_pos h]

theorem braceDepth_cons (depth : Nat) (t : Placed) (ts : List Placed) :
    braceDepth depth (t :: ts) = braceDepth (t.token.depthAfter depth) ts := rfl

theorem braceDepth_append (depth : Nat) (ts us : List Placed) :
    braceDepth depth (ts ++ us) = braceDepth (braceDepth depth ts) us := List.foldl_append ..

/-- The other tokens of a line add nothing. -/
private theorem leadKinds_same_line {n : Nat} {ts : List Placed} (hts : ∀ t ∈ ts, t.line = n) (depth : Nat)
    (us : List Placed) : leadKinds (some n) depth (ts ++ us) = leadKinds (some n) (braceDepth depth ts) us := by
  induction ts generalizing depth with
  | nil => rfl
  | cons t ts ih =>
    have ht : t.line = n := hts t (by simp)
    rw [List.cons_append, leadKinds_cons_of_skipped (Or.inl (by rw [ht])), ht, ih (fun u hu => hts u (by simp [hu])),
      braceDepth_cons]

/-- A line gives what its tokens say, if it begins at depth zero. -/
private theorem leadKinds_line {n depth : Nat} {last : Option Nat} {ts us : List Placed} (hlast : last ≠ some n)
    (hts : ∀ t ∈ ts, t.line = n) (hus : ∀ u ∈ us, u.line ≠ n) :
    telling (leadKinds last depth (ts ++ us)) =
      telling [if depth = 0 then .ofTokens ts else .other] ++
        telling (leadKinds (if ts = [] then last else some n) (braceDepth depth ts) us) := by
  cases ts with
  | nil => simp [LineKind.ofTokens, telling, braceDepth]
  | cons t ts =>
    have ht : t.line = n := hts t (by simp)
    have hts : ∀ u ∈ ts, u.line = n := fun u hu => hts u (by simp [hu])
    have hnext : ((ts ++ us).head?.filter fun u => u.line = t.line) = ts.head? := by
      cases ts with
      | nil =>
        cases us with
        | nil => rfl
        | cons u us => simp [ht, hus u (by simp)]
      | cons u ts => simp [ht, hts u (by simp)]
    rw [List.cons_append, leadKinds, hnext, ht, leadKinds_same_line hts, braceDepth_cons]
    by_cases hd : depth = 0
    · rw [if_neg (not_or.2 ⟨hlast, by simpa using hd⟩), if_pos hd, if_neg (by simp), ← telling_append]
      rfl
    · rw [if_pos (Or.inr hd), if_neg hd, if_neg (by simp)]
      rfl

theorem le_line_of_scanLines {n : Nat} {ls : List (List Char)} {ts : List Placed} (hls : ∀ l ∈ ls, '\n' ∉ l)
    (h : scanLines n ls = .ok ts) : ∀ t ∈ ts, n ≤ t.line := by
  induction ls generalizing n ts with
  | nil =>
    cases h
    simp
  | cons l ls ih =>
    obtain ⟨ts₁, ts₂, h₁, h₂, rfl⟩ := joinScans_eq_ok.1 h
    intro t ht
    rcases List.mem_append.1 ht with ht | ht
    · rw [line_of_scanFrom (hls l (by simp)) h₁ t ht]
    · have := ih (fun l hl => hls l (by simp [hl])) h₂ t ht
      omega

/-- The line pass reads off lines what can be read off their tokens. -/
theorem lineKinds_eq_leadKinds {n depth : Nat} {last : Option Nat} {ls : List (List Char)} {ts : List Placed}
    (hlast : ∀ m, last = some m → m < n) (hls : ∀ l ∈ ls, '\n' ∉ l) (h : scanLines n ls = .ok ts) :
    telling (lineKinds depth ls) = telling (leadKinds last depth ts) := by
  induction ls generalizing n depth last ts with
  | nil =>
    cases h
    rfl
  | cons l ls ih =>
    obtain ⟨ts₁, ts₂, h₁, h₂, rfl⟩ := joinScans_eq_ok.1 h
    have hl := hls l (by simp)
    have hls : ∀ l ∈ ls, '\n' ∉ l := fun l hl => hls l (by simp [hl])
    have hne : last ≠ some n := fun e => absurd (hlast n e) (Nat.lt_irrefl n)
    have hnext : ∀ m, (if ts₁ = [] then last else some n) = some m → m < n + 1 := by
      intro m hm
      split at hm
      · have := hlast m hm
        omega
      · cases hm
        omega
    have hus : ∀ u ∈ ts₂, u.line ≠ n := fun u hu => by
      have := le_line_of_scanLines hls h₂ u hu
      omega
    have ih : telling (lineKinds (braceDepth depth ts₁) ls) =
        telling (leadKinds (if ts₁ = [] then last else some n) (braceDepth depth ts₁) ts₂) := ih hnext hls h₂
    rw [leadKinds_line hne (line_of_scanFrom hl h₁) hus, ← ih, ← telling_append, lineKinds,
      depthAfter_eq_braceDepth hl h₁, LineKind.atDepth, ofOuterLine_eq_ofTokens hl h₁]
    rfl

/-- The line pass over a schema whose quoted texts stay on their lines. -/
theorem sourceKinds_eq_leadKinds {source : String} {ts : List Placed} (h : scan source = .ok ts)
    (hts : ∀ t ∈ ts, t.token.crossesLine = false) : telling (sourceKinds source) = telling (leadKinds none 0 ts) := by
  refine lineKinds_eq_leadKinds (n := 1) (fun m hm => by cases hm) (newline_not_mem_lines _) ?_
  rw [← scanFrom_eq_scanLines 1 (staysOnLines_of_scanFrom h hts)]
  exact h

end GuardedCrud.Schema
