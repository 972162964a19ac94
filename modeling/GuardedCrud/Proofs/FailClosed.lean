import GuardedCrud.Proofs.Access.Levels
import GuardedCrud.Proofs.Record.Models
import GuardedCrud.Proofs.Schema.Outline
import GuardedCrud.Proofs.Source.GuardLines

/-!
# Generation fails closed

An operation of a generated resolver stands without a guard only if its level is public, and the level is the one that
the annotation of the model gives as a string, else the one that the settings give, else `admin`
(`hasGuardLine_eq_false_iff`).  What is no annotation, for whatever reason, gives the policy of the settings.
-/

namespace GuardedCrud

open GuardedCrud.Access GuardedCrud.Schema GuardedCrud.Source GuardedCrud.Text

/-! ### Levels -/

/-- The level that the settings give for an operation; without one it is `admin`. -/
def configuredLevel (s : Settings) (op : Operation) : Level := (s.defaultPolicy.bind fun o => o.get op).getD .admin

private theorem get_basePolicy (s : Settings) (op : Operation) : s.basePolicy.get op = configuredLevel s op := by
  unfold Settings.basePolicy configuredLevel
  cases s.defaultPolicy with
  | none => simp [Policy.adminOnly]
  | some o => simp [Policy.adminOnly]

/-- The annotation of the model gives a text for the operation. -/
def Writes (source model : String) (op : Operation) (text : String) : Prop :=
  ∃ members, Annotates source model members ∧ levelText? members op = some text

/-- The level in effect is public: the one that the annotation gives, else the one of the settings.  Only the public level
itself counts in the settings.  A role that is called `public`, which no text names but settings may hold, has a guard as
every role has, so its operation is guarded. -/
def IsOpen (s : Settings) (source model : String) (op : Operation) : Prop :=
  (∃ text, Writes source model op text ∧ Level.IsKeyword text "public") ∨
    (∀ text, ¬ Writes source model op text) ∧ configuredLevel s op = .everyone

/-- Without a text for the operation its level is the one of the settings. -/
theorem get_resolvePolicy_of_not_writes {s : Settings} {source model : String} {op : Operation}
    (h : ∀ text, ¬ Writes source model op text) :
    (resolvePolicy s.basePolicy source model).get op = configuredLevel s op := by
  rw [← get_basePolicy]
  by_cases ha : ∃ members, Annotates source model members
  · obtain ⟨members, ha⟩ := ha
    have hnone : levelText? members op = none := by
      cases ht : levelText? members op with
      | none => rfl
      | some text => exact absurd ⟨members, ha, ht⟩ (h text)
    rw [resolvePolicy_of_annotates ha, hnone]
    rfl
  · rw [resolvePolicy_of_not_annotates (not_exists.1 ha)]

theorem get_resolvePolicy_of_writes {s : Settings} {source model text : String} {op : Operation}
    (h : Writes source model op text) : (resolvePolicy s.basePolicy source model).get op = Level.ofText text := by
  obtain ⟨members, ha, ht⟩ := h
  rw [resolvePolicy_of_annotates ha, ht]
  rfl

private theorem get_resolvePolicy_eq_everyone_iff (s : Settings) (source model : String) (op : Operation) :
    (resolvePolicy s.basePolicy source model).get op = .everyone ↔ IsOpen s source model op := by
  constructor
  · intro h
    by_cases hw : ∃ text, Writes source model op text
    · obtain ⟨text, hw⟩ := hw
      rw [get_resolvePolicy_of_writes hw, Level.ofText_eq_everyone_iff] at h
      exact Or.inl ⟨text, hw, h⟩
    · rw [get_resolvePolicy_of_not_writes (not_exists.1 hw)] at h
      exact Or.inr ⟨not_exists.1 hw, h⟩
  · rintro (⟨text, hw, hp⟩ | ⟨hw, hc⟩)
    · rw [get_resolvePolicy_of_writes hw, Level.ofText_eq_everyone_iff]
      exact hp
    · rw [get_resolvePolicy_of_not_writes hw, hc]

/-! ### The names of a schema -/

theorem isPlain_of_continuesName {name : String} (h : ∀ c ∈ name.toList, continuesName c = true) : IsPlain name :=
  ⟨fun hm => absurd (h _ hm) (by decide), fun hm => absurd (h _ hm) (by decide)⟩

private theorem isPlain_camelCase (name : String) : IsPlain (Naming.camelCase name) :=
  ⟨fun hm => absurd (Naming.isAlphanumeric_of_mem_camelCase hm (by decide) (by decide)) (by decide),
    fun hm => absurd (Naming.isAlphanumeric_of_mem_camelCase hm (by decide) (by decide)) (by decide)⟩

private theorem plainNames_of_mem_models {s : Settings} {source : String} {rs : List Record}
    (h : models s Structure.ofText source = .ok rs) {r : Record} (hr : r ∈ rs) : PlainNames r := by
  obtain ⟨st, m, hst, hm, rfl⟩ := exists_decl_of_mem_models h hr
  exact {
    name := isPlain_of_continuesName (name_of_mem_models hst hm).2
    property := isPlain_camelCase m.name
    pluralProperty := isPlain_camelCase (Naming.plural m.name) }

/-! ### The resolver -/

/-- Generation fails closed: the resolver of a model is made of a block for every operation, and the block of an
operation stands without a guard exactly if the level in effect is public.  A configured level that was read from a text
is public exactly if the text says so, and without an annotation the policy is the one of the settings. -/
theorem hasGuardLine_eq_false_iff {s : Settings} {source : String} {rs : List Record}
    (h : models s Structure.ofText source = .ok rs) {r : Record} (hr : r ∈ rs) :
    (∃ head, (Resolver.ofRecord s r).render =
      head ++ String.join (Operation.all.map fun op => (ResolverMethod.ofRecord s.guards r op).render) ++ "\x7d\n") ∧
    (∀ op, hasGuardLine (ResolverMethod.ofRecord s.guards r op).render = false ↔ IsOpen s source r.name op) ∧
    (∀ op text, (s.defaultPolicy.bind fun o => o.get op) = some (Level.ofText text) →
      (configuredLevel s op = .everyone ↔ Level.IsKeyword text "public")) ∧
    ((∀ members, ¬ Annotates source r.name members) → r.policy = s.basePolicy) := by
  refine ⟨render_ofRecord s r, fun op => ?_, fun op text ht => ?_, fun hn => ?_⟩
  · rw [hasGuardLine_ofRecord s.guards (plainNames_of_mem_models h hr), Option.isSome_eq_false_iff,
      Option.isNone_iff_eq_none, guard_eq_none_iff, policy_of_mem_models h hr]
    exact get_resolvePolicy_eq_everyone_iff s source r.name op
  · rw [configuredLevel, ht]
    exact Level.ofText_eq_everyone_iff text
  · rw [policy_of_mem_models h hr]
    exact resolvePolicy_of_not_annotates hn s.basePolicy

/-- A schema whose notes anyone may list, while the level of their count is a role. -/
def openNotes : String :=
  "/// @crudAuth: \x7b \"readMany\": \" Public\", \"count\": \"publics\" \x7d\nmodel Note \x7b\n  id Int @id\n\x7d\n"

/-- What the documentation of the notes says. -/
def openNotesOverrides : Overrides :=
  { Overrides.unset with readMany := some .everyone, count := some (.role "publics") }

/-- The list of notes stands without a guard, and no other operation does. -/
theorem hasGuardLine_openNotes : ∃ r, models {} Structure.ofText openNotes = .ok [r] ∧
    ∀ op, hasGuardLine (ResolverMethod.ofRecord {} r op).render = false ↔ op = .readMany := by
  have hnames : (models {} Structure.ofText openNotes).toOption.map (fun rs => rs.map fun r => r.name) =
      some ["Note"] := by decide +kernel
  have hfinding : Finding.ofSource openNotes "Note" = .annotated openNotesOverrides := by decide +kernel
  cases hm : models {} Structure.ofText openNotes with
  | error e =>
    rw [hm] at hnames
    cases hnames
  | ok rs =>
    rw [hm] at hnames
    obtain ⟨r, rfl, hname⟩ := List.map_eq_singleton_iff.1 (Option.some.inj hnames)
    refine ⟨r, rfl, fun op => ?_⟩
    obtain ⟨-, hopen, -⟩ := hasGuardLine_eq_false_iff hm (List.mem_singleton_self r)
    have hpolicy : (resolvePolicy (Settings.basePolicy {}) openNotes "Note").get op = .everyone ↔ op = .readMany := by
      rw [resolvePolicy, hfinding]
      cases op <;> decide
    rw [← hpolicy, get_resolvePolicy_eq_everyone_iff, ← hname]
    exact hopen op

end GuardedCrud
