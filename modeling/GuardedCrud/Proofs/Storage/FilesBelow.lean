import GuardedCrud.Proofs.Storage.Relisting

/-!
# The files below a directory

The walk below a directory goes on where a path leads to a directory and is not refused (`Node.Opens`), which is just
where the tree says that the path is a directory (`Tree.isDirectory_below_iff`).  On nodes this walk is a recursion over
the entries (`Node.files`).  The files below a directory are what the walk finds (`Node.mem_files_iff`), each once
(`Node.nodup_files`), so they are the same ones in every order of the entries (`Node.Relisted.files_perm`).
-/

namespace GuardedCrud.Storage

namespace Node

/-- The walk below a path goes on behind some steps: they lead to a directory, and its path is not refused. -/
def Opens (n : Node) (path : String) (steps : List String) : Prop :=
  (∃ es, n.at? steps = some (directory es)) ∧ Path.refusal? (Path.below path steps) = none

/-- The walk below a path ends behind some steps: it goes on up to them, and not behind them. -/
structure Finds (n : Node) (path : String) (steps : List String) : Prop where
  isSome : (n.at? steps).isSome
  opens : ∀ place, place <+: steps → place ≠ steps → n.Opens path place
  not_opens : ¬ n.Opens path steps

mutual

/-- The files below a directory, each with the steps to it. -/
def files (path : String) : Node → List (List String)
  | file _ => []
  | directory es => filesOfEntries path es

/-- The files of some entries. -/
def filesOfEntries (path : String) : List (String × Node) → List (List String)
  | [] => []
  | e :: rest => filesOfEntry path e ++ filesOfEntries path rest

/-- The files of an entry.  A directory with a path that is refused is taken for a file. -/
def filesOfEntry (path : String) : String × Node → List (List String)
  | (name, n) =>
    let below := Path.join path name
    if n.isDirectory && (Path.refusal? below).isNone then (files below n).map (name :: ·) else [[name]]

end

private theorem opens_cons {es : List (String × Node)} {name : String} {child : Node} (h : es.lookup name = some child)
    (path : String) (rest : List String) :
    (directory es).Opens path (name :: rest) ↔ child.Opens (Path.join path name) rest := by
  unfold Opens
  rw [at?_cons_directory h]
  rfl

end Node

/-! ### Paths below a directory -/

namespace Tree

variable {t : Tree}

/-- Steps to what is there lead on from any place. -/
private theorem foldlM_step {place steps : List String} {n m : Node} (hn : t.root.at? place = some n)
    (hm : n.at? steps = some m) (hnames : ∀ name ∈ steps, Path.IsName name) :
    steps.foldlM t.step place = .ok (place ++ steps) := by
  induction steps generalizing place n with
  | nil => rw [List.append_nil]; rfl
  | cons name rest ih =>
    obtain ⟨hname, hrest⟩ := List.forall_mem_cons.1 hnames
    obtain ⟨es, child, rfl, hchild, hm⟩ := Node.at?_cons_eq_some hm
    have hat : t.root.at? (place ++ [name]) = some child := by
      rw [Node.at?_append, hn]
      exact Node.at?_cons_directory hchild []
    rw [List.foldlM_cons, step_eq_ok hn hat ⟨hname.ne_self, hname.ne_up⟩ (Nat.not_lt.2 hname.short)]
    refine (ih hat hm hrest).trans ?_
    rw [List.append_assoc]
    rfl

theorem exists_walk_of_node? {path : String} {n : Node} (h : t.node? path = .ok n) :
    Path.refusal? path = none ∧ ∃ place, t.walk path (Path.components path) = .ok place ∧ t.root.at? place = some n := by
  unfold Tree.node? at h
  split at h
  · cases h
  rename_i hrefusal
  split at h
  · cases h
  rename_i place hwalk
  split at h
  · cases h
  rename_i m hm
  split_ifs at h
  cases h
  exact ⟨hrefusal, place, hwalk, hm⟩

private theorem ne_empty_of_refusal? {path : String} (h : Path.refusal? path = none) : path ≠ "" := by
  rintro rfl
  cases h

/-- Steps below a path lead to what is there, unless the path at their end is refused. -/
private theorem node?_below (ht : t.root.WellNamed) {path : String} {n m : Node} {steps : List String}
    (hn : t.node? path = .ok n) (hm : n.at? steps = some m) (hrefusal : Path.refusal? (Path.below path steps) = none) :
    t.node? (Path.below path steps) = .ok m := by
  by_cases hsteps : steps = []
  · subst hsteps
    cases hm
    exact hn
  obtain ⟨hpath, place, hwalk, hplace⟩ := exists_walk_of_node? hn
  have hnames := ((ht.of_at? hplace).2.of_at? hm).1
  have hbelow : t.walk (Path.below path steps) (Path.components (Path.below path steps)) = .ok (place ++ steps) := by
    unfold walk at hwalk ⊢
    rw [Path.components_below hnames, Path.isAbsolute_below hnames (ne_empty_of_refusal? hpath), List.foldlM_append,
      hwalk]
    exact foldlM_step hplace hm hnames
  have hat : t.root.at? (place ++ steps) = some m := by
    rw [Node.at?_append, hplace]
    exact hm
  unfold Tree.node?
  rw [hrefusal]
  dsimp only
  rw [hbelow]
  dsimp only
  rw [hat]
  dsimp only
  rw [Path.endsInSlash_below hnames hsteps]
  rfl

/-- Asked about a path below a path, the tree says that it is a directory just if the walk goes on there. -/
theorem isDirectory_below_iff (ht : t.root.WellNamed) {path : String} {n : Node} {steps : List String}
    (hn : t.node? path = .ok n) (hsteps : (n.at? steps).isSome) :
    t.isDirectory (Path.below path steps) = true ↔ n.Opens path steps := by
  obtain ⟨m, hm⟩ := Option.isSome_iff_exists.1 hsteps
  unfold Tree.isDirectory Node.Opens
  cases hrefusal : Path.refusal? (Path.below path steps) with
  | none =>
    rw [node?_below ht hn hm hrefusal, hm]
    cases m <;> simp [Except.toOption, Node.isDirectory]
  | some c =>
    unfold Tree.node?
    rw [hrefusal]
    simp [Except.toOption]

section

variable {path name : String} {es : List (String × Node)} {child : Node}

theorem node?_join (ht : t.root.WellNamed) (hn : t.node? path = .ok (.directory es)) (hchild : es.lookup name = some child)
    (hrefusal : Path.refusal? (Path.join path name) = none) : t.node? (Path.join path name) = .ok child := by
  have hat : (Node.directory es).at? [name] = some child := Node.at?_cons_directory hchild []
  have hbelow : t.node? (Path.below path [name]) = .ok child := node?_below ht hn hat hrefusal
  exact hbelow

theorem isDirectory_join_iff (ht : t.root.WellNamed) (hn : t.node? path = .ok (.directory es))
    (hchild : es.lookup name = some child) :
    t.isDirectory (Path.join path name) = true ↔ child.Opens (Path.join path name) [] := by
  have hat : (Node.directory es).at? [name] = some child := Node.at?_cons_directory hchild []
  have hbelow : t.isDirectory (Path.below path [name]) = true ↔ (Node.directory es).Opens path [name] :=
    isDirectory_below_iff ht hn (by rw [hat]; rfl)
  exact hbelow.trans (Node.opens_cons hchild path [])

end

end Tree

/-! ### Files below a directory -/

namespace Node

theorem isSome_at?_of_prefix {n : Node} {place steps : List String} (h : place <+: steps)
    (hsteps : (n.at? steps).isSome) : (n.at? place).isSome := by
  obtain ⟨more, rfl⟩ := h
  rw [at?_append] at hsteps
  exact Option.isSome_of_isSome_bind hsteps

private theorem finds_cons {es : List (String × Node)} {name : String} {child : Node} (h : es.lookup name = some child)
    {path : String} (hpath : (directory es).Opens path []) (rest : List String) :
    (directory es).Finds path (name :: rest) ↔ child.Finds (Path.join path name) rest := by
  constructor
  · intro hfinds
    refine ⟨?_, fun place hplace hne => ?_, mt (opens_cons h path rest).2 hfinds.not_opens⟩
    · rw [← at?_cons_directory h]
      exact hfinds.isSome
    · exact (opens_cons h path place).1
        (hfinds.opens _ (List.cons_prefix_cons.2 ⟨rfl, hplace⟩) fun heq => hne (List.cons.inj heq).2)
  · intro hfinds
    refine ⟨?_, fun place hplace hne => ?_, mt (opens_cons h path rest).1 hfinds.not_opens⟩
    · rw [at?_cons_directory h]
      exact hfinds.isSome
    · cases place with
      | nil => exact hpath
      | cons step place =>
        obtain ⟨rfl, hrest⟩ := List.cons_prefix_cons.1 hplace
        exact (opens_cons h path place).2 (hfinds.opens place hrest fun heq => hne (heq ▸ rfl))

private theorem finds_of_not_opens {n : Node} {path : String} (h : ¬ n.Opens path []) (steps : List String) :
    n.Finds path steps ↔ steps = [] := by
  constructor
  · intro hfinds
    by_contra hne
    exact h (hfinds.opens [] (List.nil_prefix ..) (Ne.symm hne))
  · rintro rfl
    exact ⟨rfl, fun place hplace hne => absurd (List.prefix_nil.1 hplace) hne, h⟩

theorem filesOfEntries_eq (path : String) (es : List (String × Node)) :
    filesOfEntries path es = es.flatMap (filesOfEntry path) := by
  induction es with
  | nil => rfl
  | cons e es ih => rw [filesOfEntries, ih, List.flatMap_cons]

theorem opens_nil_iff (n : Node) (path : String) :
    n.Opens path [] ↔ (n.isDirectory && (Path.refusal? path).isNone) = true := by
  have hpath : Path.below path [] = path := rfl
  cases n <;> simp [Opens, at?, isDirectory, hpath]

open Classical in
theorem filesOfEntry_eq (path name : String) (child : Node) : filesOfEntry path (name, child) =
    if child.Opens (Path.join path name) [] then (child.files (Path.join path name)).map (name :: ·) else [[name]] := by
  simp only [filesOfEntry, opens_nil_iff]

/-- What one entry contributes to the files below a directory. -/
private theorem mem_filesOfEntry_iff {name : String} {child : Node} {path : String} {steps : List String}
    (h : child.Opens (Path.join path name) [] → ∀ rest,
      rest ∈ child.files (Path.join path name) ↔ child.Finds (Path.join path name) rest) :
    steps ∈ filesOfEntry path (name, child) ↔ ∃ rest, steps = name :: rest ∧ child.Finds (Path.join path name) rest := by
  rw [filesOfEntry_eq]
  split_ifs with hopens
  · simp [h hopens, eq_comm, and_comm]
  · simp [finds_of_not_opens hopens]

/-- The files below a directory are what the walk finds there. -/
theorem mem_files_iff {n : Node} (hn : n.WellNamed) {path : String} (hpath : n.Opens path []) (steps : List String) :
    steps ∈ n.files path ↔ n.Finds path steps := by
  -- below every entry the walk starts from the path of the entry, so the path is general in the induction
  induction hn generalizing path steps with
  | file content =>
    obtain ⟨⟨es, hes⟩, -⟩ := hpath
    cases hes
  | @directory es nodup names nodes ih =>
    rw [files, filesOfEntries_eq, List.mem_flatMap]
    constructor
    · rintro ⟨⟨name, child⟩, he, hsteps⟩
      obtain ⟨rest, rfl, hfinds⟩ := (mem_filesOfEntry_iff fun hopens rest => ih _ he hopens rest).1 hsteps
      exact (finds_cons ((lookup_eq_some_iff nodup).2 he) hpath rest).2 hfinds
    · intro hfinds
      cases steps with
      | nil => exact absurd hpath hfinds.not_opens
      | cons name rest =>
        obtain ⟨m, hm⟩ := Option.isSome_iff_exists.1 hfinds.isSome
        obtain ⟨_, child, hes, hchild, -⟩ := at?_cons_eq_some hm
        cases hes
        have he := (lookup_eq_some_iff nodup).1 hchild
        exact ⟨_, he, (mem_filesOfEntry_iff fun hopens rest => ih _ he hopens rest).2
          ⟨rest, rfl, (finds_cons hchild hpath rest).1 hfinds⟩⟩

private theorem head?_of_mem_filesOfEntry {path : String} {e : String × Node} {steps : List String}
    (h : steps ∈ filesOfEntry path e) : steps.head? = some e.1 := by
  rw [filesOfEntry_eq] at h
  split_ifs at h
  · obtain ⟨rest, -, rfl⟩ := List.mem_map.1 h
    rfl
  · cases List.mem_singleton.1 h
    rfl

/-- No file is listed twice below a directory. -/
theorem nodup_files {n : Node} (hn : n.WellNamed) (path : String) : (n.files path).Nodup := by
  induction hn generalizing path with
  | file content => exact List.nodup_nil
  | @directory es nodup names nodes ih =>
    rw [files, filesOfEntries_eq]
    refine List.pairwise_flatMap.2 ⟨fun e he => ?_, ?_⟩
    · rw [filesOfEntry_eq]
      split_ifs
      · exact List.pairwise_map.2 ((ih e he _).imp fun hne heq => hne (List.cons.inj heq).2)
      · exact List.pairwise_singleton ..
    · -- the steps to the files of two entries begin with different names
      refine (List.pairwise_map.1 nodup).imp fun hne steps hsteps steps' hsteps' heq => hne ?_
      rw [← Option.some_inj, ← head?_of_mem_filesOfEntry hsteps, heq, head?_of_mem_filesOfEntry hsteps']

namespace Relisted

variable {n n' : Node}

theorem opens (h : n.Relisted n') (hn : n.WellNamed) {path : String} {steps : List String} (hopens : n.Opens path steps) :
    n'.Opens path steps := by
  obtain ⟨⟨es, hes⟩, hrefusal⟩ := hopens
  obtain ⟨_, hm, hr⟩ := h.exists_at? hn hes
  obtain ⟨es', rfl⟩ := hr.exists_directory
  exact ⟨⟨es', hm⟩, hrefusal⟩

theorem finds (h : n.Relisted n') (hn : n.WellNamed) {path : String} {steps : List String} (hfinds : n.Finds path steps) :
    n'.Finds path steps where
  isSome := by
    obtain ⟨m, hm⟩ := Option.isSome_iff_exists.1 hfinds.isSome
    obtain ⟨m', hm', -⟩ := h.exists_at? hn hm
    rw [hm']
    rfl
  opens place hplace hne := h.opens hn (hfinds.opens place hplace hne)
  not_opens := mt (h.symm.opens (h.wellNamed hn)) hfinds.not_opens

/-- The files below a directory are the same ones in every order of its entries. -/
theorem files_perm (h : n.Relisted n') (hn : n.WellNamed) {path : String} (hpath : n.Opens path []) :
    (n.files path).Perm (n'.files path) := by
  have hn' := h.wellNamed hn
  refine (List.perm_ext_iff_of_nodup (nodup_files hn path) (nodup_files hn' path)).2 fun steps => ?_
  rw [mem_files_iff hn hpath, mem_files_iff hn' (h.opens hn hpath)]
  exact ⟨h.finds hn, h.symm.finds hn'⟩

end Relisted

end Node

end GuardedCrud.Storage
