import GuardedCrud.Proofs.Storage.PathSteps
import GuardedCrud.Proofs.Storage.Tree

/-!
# Trees whose directories are listed in another order

Where the entries of directories have different names (`Node.WellNamed`), the order in which they are listed
(`Node.Relisted`) does not matter to paths: they lead to the same files and directories (`Tree.Relisted.node?`), and the
same texts are read (`Tree.Relisted.readText_eq`).
-/

namespace GuardedCrud.Storage

namespace Node

/-- Every directory has entries with names, no two with the same one. -/
inductive WellNamed : Node → Prop
  | file (content : ByteArray) : WellNamed (file content)
  | directory {es : List (String × Node)} (nodup : (es.map (·.1)).Nodup) (names : ∀ e ∈ es, Path.IsName e.1)
      (nodes : ∀ e ∈ es, WellNamed e.2) : WellNamed (directory es)

/-- The same files and directories, with the entries of the directories listed in another order. -/
inductive Relisted : Node → Node → Prop
  | refl (n : Node) : Relisted n n
  | entries {es es' : List (String × Node)} (h : es.Perm es') : Relisted (directory es) (directory es')
  | inside {before after : List (String × Node)} {name : String} {n n' : Node} (h : Relisted n n') :
      Relisted (directory (before ++ (name, n) :: after)) (directory (before ++ (name, n') :: after))
  | trans {n₁ n₂ n₃ : Node} (h : Relisted n₁ n₂) (h' : Relisted n₂ n₃) : Relisted n₁ n₃

/-! ### Nodes at the end of steps -/

theorem lookup_eq_some_iff {es : List (String × Node)} (h : (es.map (·.1)).Nodup) {name : String} {n : Node} :
    es.lookup name = some n ↔ (name, n) ∈ es := by
  induction es with
  | nil => simp
  | cons e es ih =>
    obtain ⟨key, m⟩ := e
    obtain ⟨hkey, hnodup⟩ := List.nodup_cons.1 h
    rw [lookup_cons_eq, List.mem_cons]
    split_ifs with hname
    · subst hname
      have hmem : (name, n) ∉ es := fun hmem => hkey (List.mem_map.2 ⟨_, hmem, rfl⟩)
      simp [hmem, eq_comm]
    · simp [hname, ih hnodup]

private theorem lookup_perm {es es' : List (String × Node)} (h : es.Perm es') (hnodup : (es.map (·.1)).Nodup)
    (name : String) : es.lookup name = es'.lookup name := by
  refine Option.ext fun n => ?_
  rw [lookup_eq_some_iff hnodup, lookup_eq_some_iff ((h.map _).nodup_iff.1 hnodup), h.mem_iff]

private theorem WellNamed.of_lookup {es : List (String × Node)} (h : WellNamed (.directory es)) {name : String}
    {n : Node} (hn : es.lookup name = some n) : Path.IsName name ∧ n.WellNamed := by
  cases h with
  | directory nodup names nodes =>
    have hmem := (lookup_eq_some_iff nodup).1 hn
    exact ⟨names _ hmem, nodes _ hmem⟩

theorem WellNamed.of_at? {n m : Node} {steps : List String} (h : n.WellNamed) (hm : n.at? steps = some m) :
    (∀ name ∈ steps, Path.IsName name) ∧ m.WellNamed := by
  induction steps generalizing n with
  | nil =>
    cases hm
    exact ⟨nofun, h⟩
  | cons name rest ih =>
    obtain ⟨es, child, rfl, hchild, hm⟩ := at?_cons_eq_some hm
    obtain ⟨hname, hwell⟩ := h.of_lookup hchild
    obtain ⟨hrest, hm⟩ := ih hwell hm
    exact ⟨List.forall_mem_cons.2 ⟨hname, hrest⟩, hm⟩

namespace Relisted

variable {n n' : Node}

theorem symm (h : n.Relisted n') : n'.Relisted n := by
  induction h with
  | refl n => exact .refl n
  | entries h => exact .entries h.symm
  | inside _ ih => exact .inside ih
  | trans _ _ ih ih' => exact .trans ih' ih

theorem wellNamed (h : n.Relisted n') (hn : n.WellNamed) : n'.WellNamed := by
  induction h with
  | refl n => exact hn
  | entries h =>
    cases hn with
    | directory nodup names nodes =>
      exact .directory ((h.map _).nodup_iff.1 nodup) (fun e he => names e (h.mem_iff.2 he)) fun e he =>
        nodes e (h.mem_iff.2 he)
  | inside h ih =>
    cases hn with
    | directory nodup names nodes =>
      simp only [List.forall_mem_append, List.forall_mem_cons] at names nodes
      refine .directory (by simpa using nodup) ?_ ?_ <;> simp only [List.forall_mem_append, List.forall_mem_cons]
      · exact names
      · exact ⟨nodes.1, ih nodes.2.1, nodes.2.2⟩
  | trans _ _ ih ih' => exact ih' (ih hn)

theorem isDirectory_eq (h : n.Relisted n') : n'.isDirectory = n.isDirectory := by
  induction h with
  | refl n => rfl
  | entries h => rfl
  | inside h ih => rfl
  | trans _ _ ih ih' => exact ih'.trans ih

private theorem eq_file {content : ByteArray} (h : (file content).Relisted n') : n' = file content := by
  generalize hn : file content = n at h
  induction h with
  | refl n => rfl
  | entries h => cases hn
  | inside h ih => cases hn
  | trans _ _ ih ih' =>
    cases ih hn
    exact ih' hn

theorem exists_directory {es : List (String × Node)} (h : (directory es).Relisted n') : ∃ es', n' = directory es' := by
  cases n' with
  | file content => cases h.isDirectory_eq
  | directory es' => exact ⟨es', rfl⟩

/-- What is at the end of some steps is there in the other order too. -/
theorem exists_at? (h : n.Relisted n') (hn : n.WellNamed) {steps : List String} {m : Node} (hm : n.at? steps = some m) :
    ∃ m', n'.at? steps = some m' ∧ m.Relisted m' := by
  induction h generalizing steps m with
  | refl n => exact ⟨m, hm, .refl m⟩
  | entries h =>
    cases steps with
    | nil =>
      cases hm
      exact ⟨_, rfl, .entries h⟩
    | cons name rest =>
      obtain ⟨_, child, hes, hchild, hm⟩ := at?_cons_eq_some hm
      cases hes
      cases hn with
      | directory nodup names nodes =>
        rw [lookup_perm h nodup] at hchild
        exact ⟨m, (at?_cons_directory hchild rest).trans hm, .refl m⟩
  | @inside before after key n n' h ih =>
    cases steps with
    | nil =>
      cases hm
      exact ⟨_, rfl, .inside h⟩
    | cons name rest =>
      obtain ⟨_, child, hes, hchild, hm⟩ := at?_cons_eq_some hm
      cases hes
      have hlookup (x : Node) : (before ++ (key, x) :: after).lookup name =
          (before.lookup name).or (if name = key then some x else after.lookup name) := by
        rw [List.lookup_append, lookup_cons_eq]
      have hwell := (hn.of_lookup hchild).2
      rw [hlookup] at hchild
      -- the steps enter the changed entry only if it is the first one with the name
      cases hbefore : before.lookup name with
      | some _ =>
        rw [hbefore] at hchild
        cases hchild
        exact ⟨m, (at?_cons_directory (by rw [hlookup, hbefore]; rfl) rest).trans hm, .refl m⟩
      | none =>
        rw [hbefore, Option.none_or] at hchild
        split_ifs at hchild with hname
        · cases hchild
          obtain ⟨m', hm', hr⟩ := ih hwell hm
          refine ⟨m', (at?_cons_directory ?_ rest).trans hm', hr⟩
          rw [hlookup, hbefore, if_pos hname]
          rfl
        · refine ⟨m, (at?_cons_directory ?_ rest).trans hm, .refl m⟩
          rw [hlookup, hbefore, if_neg hname, hchild]
          rfl
  | trans h _ ih ih' =>
    obtain ⟨m₁, hm₁, hr⟩ := ih hn hm
    obtain ⟨m₂, hm₂, hr'⟩ := ih' (h.wellNamed hn) hm₁
    exact ⟨m₂, hm₂, hr.trans hr'⟩

private theorem at?_cases (h : n.Relisted n') (hn : n.WellNamed) (steps : List String) :
    (n.at? steps = none ∧ n'.at? steps = none) ∨
      ∃ m m', n.at? steps = some m ∧ n'.at? steps = some m' ∧ m.WellNamed ∧ m.Relisted m' := by
  cases hm : n.at? steps with
  | some m =>
    obtain ⟨m', hm', hr⟩ := h.exists_at? hn hm
    exact .inr ⟨m, m', rfl, hm', (hn.of_at? hm).2, hr⟩
  | none =>
    cases hm' : n'.at? steps with
    | some m' =>
      obtain ⟨m, hsome, -⟩ := h.symm.exists_at? (h.wellNamed hn) hm'
      rw [hm] at hsome
      cases hsome
    | none => exact .inl ⟨rfl, rfl⟩

private theorem isSome_lookup {es es' : List (String × Node)} (h : (directory es).Relisted (directory es'))
    (hn : (directory es).WellNamed) (name : String) : (es'.lookup name).isSome = (es.lookup name).isSome := by
  have hat (fs : List (String × Node)) : (directory fs).at? [name] = fs.lookup name := Option.bind_fun_some _
  rw [← hat es, ← hat es']
  obtain ⟨hm, hm'⟩ | ⟨m, m', hm, hm', -⟩ := h.at?_cases hn [name]
  · rw [hm, hm']
  · rw [hm, hm']
    rfl

end Relisted

end Node

/-! ### Paths -/

namespace Tree

/-- The same tree of files, with the entries of its directories listed in another order. -/
structure Relisted (t t' : Tree) : Prop where
  root : t.root.Relisted t'.root
  working : t'.working = t.working

variable {t t' : Tree}

namespace Relisted

private theorem step_eq (h : t.Relisted t') (ht : t.root.WellNamed) (place : List String) (name : String) :
    t'.step place name = t.step place name := by
  unfold step
  obtain ⟨hm, hm'⟩ | ⟨m, m', hm, hm', hwell, hr⟩ := h.root.at?_cases ht place
  · rw [hm, hm']
  · rw [hm, hm']
    cases m with
    | file content => rw [hr.eq_file]
    | directory es =>
      obtain ⟨es', rfl⟩ := hr.exists_directory
      have hlookup := hr.isSome_lookup hwell name
      simp only [ entry?]
      split_ifs
      · rfl
      · rfl
      · rfl
      · generalize es.lookup name = old at hlookup ⊢
        generalize es'.lookup name = new at hlookup ⊢
        cases old <;> cases new <;> simp_all

private theorem walk_eq (h : t.Relisted t') (ht : t.root.WellNamed) (path : String) (steps : List String) :
    t'.walk path steps = t.walk path steps := by
  have hstep : t'.step = t.step := funext fun place => funext (h.step_eq ht place)
  unfold walk
  rw [hstep, h.working]

/-- A path leads to the same node, up to the order of its entries, or nowhere for the same cause. -/
theorem node? (h : t.Relisted t') (ht : t.root.WellNamed) (path : String) :
    (∃ c, t.node? path = .error c ∧ t'.node? path = .error c) ∨
      ∃ n n', t.node? path = .ok n ∧ t'.node? path = .ok n' ∧ n.WellNamed ∧ n.Relisted n' := by
  unfold Tree.node?
  cases Path.refusal? path with
  | some c => exact .inl ⟨c, rfl, rfl⟩
  | none =>
    dsimp only
    rw [h.walk_eq ht]
    cases t.walk path (Path.components path) with
    | error c => exact .inl ⟨c, rfl, rfl⟩
    | ok place =>
      dsimp only
      obtain ⟨hn, hn'⟩ | ⟨n, n', hn, hn', hwell, hr⟩ := h.root.at?_cases ht place
      · rw [hn, hn']
        exact .inl ⟨.noEntry, rfl, rfl⟩
      · rw [hn, hn']
        dsimp only
        rw [hr.isDirectory_eq]
        split
        · exact .inl ⟨.notDirectory, rfl, rfl⟩
        · exact .inr ⟨n, n', rfl, rfl, hwell, hr⟩

theorem isDirectory_eq (h : t.Relisted t') (ht : t.root.WellNamed) (path : String) :
    t'.isDirectory path = t.isDirectory path := by
  unfold Tree.isDirectory
  obtain ⟨c, hc, hc'⟩ | ⟨n, n', hn, hn', -, hr⟩ := h.node? ht path
  · rw [hc, hc']
  · rw [hn, hn']
    exact hr.isDirectory_eq

theorem readText_eq (h : t.Relisted t') (ht : t.root.WellNamed) (path : String) :
    t'.readText path = t.readText path := by
  have hread : t'.read path = t.read path := by
    unfold Tree.read
    obtain ⟨c, hc, hc'⟩ | ⟨n, n', hn, hn', -, hr⟩ := h.node? ht path
    · rw [hc, hc']
    · rw [hn, hn']
      cases n with
      | file content => rw [hr.eq_file]
      | directory es =>
        obtain ⟨es', rfl⟩ := hr.exists_directory
        rfl
  unfold Tree.readText
  rw [hread]

end Relisted

end Tree

end GuardedCrud.Storage
