import GuardedCrud.Storage.FileSystem
import Mathlib.Data.List.Basic

/-!
# Files are read back from a tree

A node that is put under some steps is found there (`Node.at?_put`).  If it replaces no directory, every directory stays one
and keeps its names (`Node.Keeps`), so paths lead where they led before, and a file that was written is read back
(`Tree.read_of_write`).
-/

namespace GuardedCrud.Storage

/-! ### Nodes -/

namespace Node

theorem lookup_cons_eq (name key : String) (n : Node) (es : List (String × Node)) :
    List.lookup key ((name, n) :: es) = if key = name then some n else es.lookup key := by
  rw [List.lookup_cons]
  by_cases h : key = name
  · rw [if_pos h, beq_iff_eq.2 h]
  · rw [if_neg h, beq_false_of_ne h]

private theorem lookup_map_replace (name : String) (n : Node) (es : List (String × Node)) (key : String) :
    (es.map fun (k, old) => if k = name then (k, n) else (k, old)).lookup key =
      if key = name then (es.lookup name).map fun _ => n else es.lookup key := by
  induction es with
  | nil => simp
  | cons entry es ih =>
    obtain ⟨k, old⟩ := entry
    rw [List.map_cons, lookup_cons_eq, lookup_cons_eq]
    by_cases hk : k = name
    · rw [if_pos hk, lookup_cons_eq, ih, if_pos hk.symm, hk]
      by_cases hkey : key = name <;> simp [hkey]
    · rw [if_neg hk, lookup_cons_eq, ih, if_neg (Ne.symm hk)]
      by_cases hkey : key = k
      · simp [hkey, hk]
      · simp [hkey]

private theorem lookup_putEntry (name : String) (n : Node) (es : List (String × Node)) (key : String) :
    (putEntry name n es).lookup key = if key = name then some n else es.lookup key := by
  unfold putEntry
  cases hname : es.lookup name with
  | some old =>
    rw [Option.isSome_some, if_pos rfl, lookup_map_replace, hname]
    rfl
  | none =>
    rw [Option.isSome_none, if_neg Bool.false_ne_true, List.lookup_append, lookup_cons_eq, List.lookup_nil]
    by_cases hkey : key = name
    · rw [if_pos hkey, if_pos hkey, hkey, hname]
      rfl
    · rw [if_neg hkey, if_neg hkey, Option.or_none]

/-- A node under a step is under a directory. -/
theorem at?_cons_eq_some {n m : Node} {name : String} {rest : List String} (h : n.at? (name :: rest) = some m) :
    ∃ es child, n = .directory es ∧ es.lookup name = some child ∧ child.at? rest = some m := by
  cases n with
  | file content => cases h
  | directory es =>
    obtain ⟨child, hchild, hm⟩ := Option.bind_eq_some_iff.1 h
    exact ⟨es, child, rfl, hchild, hm⟩

theorem at?_cons_directory {es : List (String × Node)} {name : String} {child : Node} (h : es.lookup name = some child)
    (rest : List String) : (directory es).at? (name :: rest) = child.at? rest := by
  show (es.lookup name).bind _ = _
  rw [h]
  rfl

private theorem put_cons_directory (value : Node) {es : List (String × Node)} {name : String} {child : Node}
    (h : es.lookup name = some child) (rest : List String) :
    put value (name :: rest) (directory es) = directory (putEntry name (put value rest child) es) := by
  rw [put, h]
  rfl

theorem at?_append (n : Node) (place more : List String) :
    n.at? (place ++ more) = (n.at? place).bind fun m => m.at? more := by
  induction place generalizing n with
  | nil => rfl
  | cons step place ih =>
    show (n.entries.lookup step).bind _ = ((n.entries.lookup step).bind _).bind _
    cases n.entries.lookup step with
    | none => rfl
    | some child => exact ih child

/-- What is put under a new last step of a directory is found there. -/
theorem at?_put {value n : Node} {place : List String} {es : List (String × Node)} (name : String)
    (h : n.at? place = some (.directory es)) : (put value (place ++ [name]) n).at? (place ++ [name]) = some value := by
  induction place generalizing n with
  | nil =>
    cases h
    exact at?_cons_directory (by rw [lookup_putEntry, if_pos rfl]; rfl) []
  | cons step place ih =>
    obtain ⟨es, child, rfl, hchild, hm⟩ := at?_cons_eq_some h
    rw [List.cons_append, put_cons_directory value hchild,
      at?_cons_directory (by rw [lookup_putEntry, if_pos rfl])]
    exact ih hm

/-- Every directory is a directory in the other tree too, with the same names at least. -/
def Keeps (n n' : Node) : Prop := ∀ place es, n.at? place = some (.directory es) →
  ∃ es', n'.at? place = some (.directory es') ∧ ∀ name, (es.lookup name).isSome → (es'.lookup name).isSome

private theorem keeps_putEntry {es : List (String × Node)} {name : String} {n : Node}
    (h : ∀ old, es.lookup name = some old → Keeps old n) : Keeps (directory es) (directory (putEntry name n es)) := by
  intro place fs hplace
  cases place with
  | nil =>
    cases hplace
    refine ⟨_, rfl, fun key hkey => ?_⟩
    rw [lookup_putEntry]
    split
    · rfl
    · exact hkey
  | cons step rest =>
    obtain ⟨_, child, hes, hchild, hfs⟩ := at?_cons_eq_some hplace
    cases hes
    by_cases hstep : step = name
    · subst hstep
      rw [at?_cons_directory (by rw [lookup_putEntry, if_pos rfl])]
      exact h child hchild rest fs hfs
    · rw [at?_cons_directory (by rw [lookup_putEntry, if_neg hstep, hchild])]
      exact ⟨fs, hfs, fun _ => id⟩

/-- Where no directory is replaced, all directories and their names are kept. -/
private theorem keeps_put {value n : Node} {place : List String} {es : List (String × Node)} {name : String}
    (h : n.at? place = some (.directory es)) (hold : ∀ old, es.lookup name = some old → old.isDirectory = false) :
    Keeps n (put value (place ++ [name]) n) := by
  induction place generalizing n with
  | nil =>
    cases h
    refine keeps_putEntry fun old hlookup => ?_
    cases old with
    | directory _ => cases hold _ hlookup
    | file content =>
      -- there is no directory in a file
      rintro (_ | ⟨step, rest⟩) es h <;> cases h
  | cons step place ih =>
    obtain ⟨es₁, child, rfl, hchild, hm⟩ := at?_cons_eq_some h
    rw [List.cons_append, put_cons_directory value hchild]
    refine keeps_putEntry fun old hlookup => ?_
    cases hchild.symm.trans hlookup
    exact ih hm

end Node

/-! ### Trees -/

namespace Tree

/-- Where a step led before, it leads in a tree that keeps the directories. -/
private theorem step_of_keeps {t t' : Tree} (h : t.root.Keeps t'.root) {place place' : List String} {name : String}
    (hstep : t.step place name = .ok place') : t'.step place name = .ok place' := by
  unfold step at hstep ⊢
  split at hstep
  · rename_i es hes
    obtain ⟨es', hes', hnames⟩ := h place es hes
    rw [hes']
    dsimp only
    split_ifs at hstep ⊢ with hself hup
    · exact hstep
    · exact hstep
    · unfold entry? at hstep ⊢
      split_ifs at hstep ⊢
      cases hname : es.lookup name with
      | none => rw [hname] at hstep; cases hstep
      | some n =>
        obtain ⟨m, hm⟩ := Option.isSome_iff_exists.1 (hnames name (by rw [hname]; rfl))
        rw [hname] at hstep
        rw [hm]
        exact hstep
  · cases hstep

private theorem walk_of_keeps {t t' : Tree} (h : t.root.Keeps t'.root) (hworking : t'.working = t.working)
    {path : String} {steps place : List String} (hwalk : t.walk path steps = .ok place) :
    t'.walk path steps = .ok place := by
  unfold walk at hwalk ⊢
  rw [hworking]
  generalize (if Path.isAbsolute path then [] else t.working) = start at hwalk ⊢
  induction steps generalizing start with
  | nil => exact hwalk
  | cons name steps ih =>
    rw [List.foldlM_cons] at hwalk ⊢
    cases hstep : t.step start name with
    | error c => rw [hstep] at hwalk; cases hwalk
    | ok next =>
      rw [hstep] at hwalk
      rw [step_of_keeps h hstep]
      exact ih next hwalk

/-- A step to a name that leads to a node. -/
theorem step_eq_ok {t : Tree} {place : List String} {name : String} {es : List (String × Node)} {n : Node}
    (hes : t.root.at? place = some (.directory es)) (hn : t.root.at? (place ++ [name]) = some n)
    (hname : name ≠ "." ∧ name ≠ "..") (hlong : ¬ Path.longestStep < name.utf8ByteSize) :
    t.step place name = .ok (place ++ [name]) := by
  rw [Node.at?_append, hes, Option.bind_some] at hn
  obtain ⟨_, child, hchild, hlookup, -⟩ := Node.at?_cons_eq_some hn
  cases hchild
  unfold step entry?
  rw [hes]
  dsimp only
  rw [if_neg hname.1, if_neg hname.2, if_neg hlong, hlookup]

/-- What is known of the last step of a path. -/
structure Target.IsOf (target : Target) (t : Tree) (path : String) (before : List String) : Prop where
  refusal : Path.refusal? path = none
  components : Path.components path = before ++ [target.name]
  walk : t.walk path before = .ok target.place
  entries : t.root.at? target.place = some (.directory target.entries)
  name : target.name ≠ "." ∧ target.name ≠ ".."

private theorem exists_isOf_of_target {t : Tree} {path : String} {atTop : Cause} {target : Target}
    (h : t.target path atTop = .ok target) : ∃ before, target.IsOf t path before := by
  unfold Tree.target at h
  split at h
  · cases h
  rename_i hrefusal
  split at h
  · cases h
  rename_i name before hcomponents
  split at h
  · cases h
  rename_i place hwalk
  split at h
  · rename_i es hes
    split_ifs at h with hname
    cases h
    exact ⟨before.reverse, hrefusal, by rw [← List.reverse_reverse (Path.components path), hcomponents]; simp, hwalk, hes,
      not_or.1 hname⟩
  · cases h

/-- A file that was written is at the end of its path. -/
private theorem node?_of_write {t t' : Tree} {path : String} {content : ByteArray} (h : t.write path content = .ok t') :
    t'.node? path = .ok (.file content) := by
  unfold write at h
  split at h
  · cases h
  rename_i target htarget
  split_ifs at h with hslash
  split at h
  · cases h
  rename_i old hold
  split_ifs at h with hdirectory
  cases h
  obtain ⟨before, hof⟩ := exists_isOf_of_target htarget
  have hshort : ¬ Path.longestStep < target.name.utf8ByteSize ∧ target.entries.lookup target.name = old := by
    unfold Target.node? entry? at hold
    split_ifs at hold with hlong
    exact ⟨hlong, Except.ok.inj hold⟩
  have hkeeps : t.root.Keeps (t.put target.path (.file content)).root := by
    refine Node.keeps_put hof.entries fun n hn => ?_
    rw [hshort.2] at hn
    subst hn
    simpa using hdirectory
  have hat : (t.put target.path (.file content)).root.at? target.path = some (.file content) :=
    Node.at?_put target.name hof.entries
  have hwalk : (t.put target.path (.file content)).walk path (before ++ [target.name]) = .ok target.path := by
    obtain ⟨es', hes', -⟩ := hkeeps target.place _ hof.entries
    have hbefore := walk_of_keeps hkeeps rfl hof.walk
    unfold walk at hbefore ⊢
    rw [List.foldlM_append, hbefore]
    show [target.name].foldlM (Tree.step _) target.place = .ok _
    rw [List.foldlM_cons, step_eq_ok hes' hat hof.name hshort.1]
    rfl
  unfold node?
  rw [hof.refusal, hof.components]
  dsimp only
  rw [hwalk]
  dsimp only
  rw [hat]
  simp [hslash]

theorem read_of_write {t t' : Tree} {path : String} {content : ByteArray} (h : t.write path content = .ok t') :
    t'.read path = .ok content := by
  rw [read, node?_of_write h]

private theorem pathExists_of_write {t t' : Tree} {path : String} {content : ByteArray}
    (h : t.write path content = .ok t') : t'.pathExists path = true := by
  rw [pathExists, node?_of_write h]
  rfl

private theorem readText_of_write {t t' : Tree} {path text : String} (h : t.write path text.toUTF8 = .ok t') :
    t'.readText path = .ok text := by
  have htext : String.fromUTF8? text.toUTF8 = some text := by
    simp only [String.fromUTF8?, String.toUTF8_eq_toByteArray, dif_pos text.isValidUTF8]
    rfl
  rw [readText, read_of_write h]
  dsimp only
  rw [htext]

end Tree

/-! ### File systems -/

/-- What was written under a path is there, and is read from there. -/
structure FileSystem.ReadsBack {σ : Type} (fs : FileSystem (StateM σ)) : Prop where
  pathExists {path text : String} {s s' : σ} (h : (fs.writeText path text).run s = (.ok (), s')) :
    (fs.pathExists path).run s' = (true, s')
  readText {path text : String} {s s' : σ} (h : (fs.writeText path text).run s = (.ok (), s')) :
    (fs.readText path).run s' = (.ok text, s')

theorem FileSystem.readsBack_ofTree : FileSystem.ofTree.ReadsBack := by
  have hwrite : ∀ {path text : String} {t t' : Tree}, (FileSystem.ofTree.writeText path text).run t = (.ok (), t') →
      t.write path text.toUTF8 = .ok t' := by
    intro path text t t' h
    replace h : FileSystem.change (fun t => t.write path text.toUTF8) t = (.ok (), t') := h
    unfold FileSystem.change at h
    split at h
    · rename_i hw
      rw [← (Prod.mk.inj h).2]
      exact hw
    · cases h
  exact ⟨fun h => by
      show (Tree.pathExists _ _, _) = _
      rw [Tree.pathExists_of_write (hwrite h)],
    fun h => by
      show (Tree.readText _ _, _) = _
      rw [Tree.readText_of_write (hwrite h)]⟩

end GuardedCrud.Storage
