import GuardedCrud.Proofs.Toml.Quoted
import GuardedCrud.Toml.Reader

/-!
# Documents are read back

A document whose keys need no quotes is read back line by line, as its sections (`Document.readLines_render`).  Where no key
stands twice, the sections make up a table with the entries of the document (`foldlM_addSection`), so the printed text gives
the document's table again (`Document.ofText?_render`).
-/

namespace GuardedCrud.Toml

/-! ### Keys and values -/

/-- The key may stand without quotes. -/
def IsBare (key : String) : Prop := key.toList ≠ [] ∧ ∀ c ∈ key.toList, isBareKey c = true

-- the search for an instance may decide `∀ c` over all characters; the test of the list is named here
instance (key : String) : Decidable (IsBare key) :=
  decidable_of_iff (key.toList.isEmpty = false ∧ key.toList.all isBareKey = true)
    (and_congr List.isEmpty_eq_false_iff List.all_eq_true)

private theorem skipSpace_cons {c : Char} (h : isBareKey c = true) (cs : List Char) :
    skipSpace (c :: cs) = c :: cs := by
  have hc : ¬ (c == ' ' || c == '\t') = true := by
    simp only [Bool.or_eq_true, beq_iff_eq]
    rintro (rfl | rfl) <;> exact absurd h (by decide)
  rw [skipSpace, List.dropWhile_cons, if_neg hc]

/-- A bare key is read up to what follows it. -/
private theorem readKeys_bare {key : String} (hkey : IsBare key) {stop : Char} (hstop : isBareKey stop = false)
    (rest : List Char) (hdot : ∀ us, skipSpace (stop :: rest) ≠ '.' :: us) :
    readKeys (key.toList ++ stop :: rest) = some ([key], skipSpace (stop :: rest)) := by
  obtain ⟨hne, hbare⟩ := hkey
  have hspace : skipSpace (key.toList ++ stop :: rest) = key.toList ++ stop :: rest := by
    obtain ⟨c, cs, hcs⟩ := List.exists_cons_of_ne_nil hne
    rw [hcs, List.cons_append]
    exact skipSpace_cons (hbare c (by simp [hcs])) _
  have hpart : readKeyPart (key.toList ++ stop :: rest) = some (key, stop :: rest) := by
    have htake : (key.toList ++ stop :: rest).takeWhile isBareKey = key.toList := by
      rw [List.takeWhile_append_of_pos hbare, List.takeWhile_cons, if_neg (by rw [hstop]; decide), List.append_nil]
    have hdrop : (key.toList ++ stop :: rest).dropWhile isBareKey = stop :: rest := by
      rw [List.dropWhile_append_of_pos hbare, List.dropWhile_cons, if_neg (by rw [hstop]; decide)]
    unfold readKeyPart
    rw [htake, hdrop]
    split
    · rename_i hnil
      exact absurd hnil hne
    · rw [String.ofList_toList]
  have hparts : readKeyParts (key.toList ++ stop :: rest) = some ([key], skipSpace (stop :: rest)) := by
    rw [readKeyParts, hspace, hpart]
    dsimp only
    split
    · rename_i h
      exact absurd h (hdot _)
    · rfl
  rw [readKeys, hparts, Option.bind_some]
  exact if_pos (show 1 < nestingLimit by decide)

/-- A text begins with one of the quotes. -/
private theorem quoted_eq_cons (text : String) : ∃ q us, (quoted text).toList = q :: us ∧ (q = '"' ∨ q = '\'') := by
  unfold quoted
  rw [String.toList_ofList]
  cases Style.ofText text.toList with
  | basic | basicLines => exact ⟨'"', _, rfl, .inl rfl⟩
  | literal | literalLines => exact ⟨'\'', _, rfl, .inr rfl⟩

/-- A text in quotes is read as a value, with blanks before it or without. -/
private theorem readValue_quoted (text : String) (rest : List Char) :
    readValue (skipSpace (' ' :: ((quoted text).toList ++ '\n' :: rest))) = some (.text text, '\n' :: rest) := by
  have hread := readText_quoted text rest
  obtain ⟨q, us, hq, hquote⟩ := quoted_eq_cons text
  rw [hq, List.cons_append] at hread ⊢
  have hnode : readTextNode (q :: (us ++ '\n' :: rest)) = some (.text text, '\n' :: rest) := by
    rw [readTextNode, hread]
    show some (Node.text (String.ofList text.toList), '\n' :: rest) = _
    rw [String.ofList_toList]
  obtain rfl | rfl := hquote <;> exact hnode

private theorem readLine_pair {c : Char} (h : isBareKey c = true) (cs : List Char) : readLine (c :: cs) =
    (readPair readValue (c :: cs)).bind fun (p, rest) => (skipLineEnd rest).map fun after => (some (.pair p), after) := by
  have hne : ∀ d, isBareKey d = false → c ≠ d := fun d hd e => by simp [← e, h] at hd
  have hstart : ¬ (c = '#' ∨ c = '\n' ∨ c = '\r') := by
    simp [hne '#' (by decide), hne '\n' (by decide), hne '\r' (by decide)]
  rw [readLine, if_neg hstart]
  · exact fun _ e => absurd e (hne '[' (by decide))
  · exact fun e => absurd e (hne '[' (by decide))

/-- The line of a pair of a bare key and a text. -/
private theorem readLine_pairLine {pair : String × String} (hkey : IsBare pair.1) (rest : List Char) :
    readLine (skipSpace ((Document.pairLine pair).toList ++ rest)) =
      some (some (.pair ⟨[pair.1], .text pair.2⟩), rest) := by
  obtain ⟨key, text⟩ := pair
  obtain ⟨c, cs, hcs⟩ := List.exists_cons_of_ne_nil hkey.1
  have hc : isBareKey c = true := hkey.2 c (by simp [hcs])
  have hline : (Document.pairLine (key, text)).toList ++ rest =
      key.toList ++ ' ' :: '=' :: ' ' :: ((quoted text).toList ++ '\n' :: rest) := by
    simp [Document.pairLine]
  have hpair : readPair readValue ((Document.pairLine (key, text)).toList ++ rest) =
      some (⟨[key], .text text⟩, '\n' :: rest) := by
    rw [hline, readPair, readKeys_bare hkey (by decide) _ (fun us => by simp [skipSpace]), Option.bind_some]
    show (readValue (skipSpace (' ' :: ((quoted text).toList ++ '\n' :: rest)))).map _ = _
    rw [readValue_quoted]
    rfl
  rw [hline, hcs, List.cons_append] at hpair ⊢
  rw [skipSpace_cons hc, readLine_pair hc, hpair]
  rfl

/-- The header of a table with a bare name. -/
private theorem readLine_header {name : String} (hname : IsBare name) (rest : List Char) :
    readLine (skipSpace ('[' :: (name.toList ++ ']' :: '\n' :: rest))) = some (some (.table [name]), rest) := by
  have hkeys : readKeys (name.toList ++ ']' :: '\n' :: rest) = some ([name], ']' :: '\n' :: rest) :=
    readKeys_bare hname (by decide) _ fun us => by simp [skipSpace]
  obtain ⟨c, cs, hcs⟩ := List.exists_cons_of_ne_nil hname.1
  have hc : c ≠ '[' := by
    rintro rfl
    exact absurd (hname.2 '[' (by simp [hcs])) (by decide)
  show readLine ('[' :: (name.toList ++ ']' :: '\n' :: rest)) = _
  rw [readLine, hkeys]
  · rfl
  · intro us he
    rw [hcs] at he
    exact hc (List.cons.inj he).1

/-! ### Lines -/

private theorem readLines_cons {cs rest : List Char} {line : Option Line}
    (h : readLine (skipSpace cs) = some (line, rest)) (hlen : rest.length < cs.length) :
    readLines cs = (readLines rest).map fun lines => line.toList ++ lines := by
  cases cs with
  | nil => cases hlen
  | cons c cs =>
    rw [readLines, h]
    · exact if_pos hlen
    · simp

/-- Keys with texts as pairs of a document. -/
def pairsOf (pairs : List (String × String)) : List Pair := pairs.map fun (key, text) => ⟨[key], .text text⟩

/-- The lines of some pairs. -/
def pairLines (pairs : List (String × String)) : List Line := (pairsOf pairs).map .pair

/-- The lines of a document. -/
def Document.lines (d : Document) : List Line :=
  pairLines d.pairs ++ d.tables.flatMap fun table => .table [table.1] :: pairLines table.2

private theorem readLines_pairLines {pairs : List (String × String)} (h : ∀ pair ∈ pairs, IsBare pair.1)
    (rest : List Char) : readLines ((String.join (pairs.map Document.pairLine)).toList ++ rest) =
      (readLines rest).map fun lines => pairLines pairs ++ lines := by
  rw [String.toList_join, List.flatMap_map]
  induction pairs with
  | nil => simp [pairLines, pairsOf]
  | cons pair pairs ih =>
    have hlen : 0 < (Document.pairLine pair).toList.length := by
      simp only [Document.pairLine, String.toList_append, List.length_append]
      exact Nat.lt_add_left _ (by decide)
    rw [List.flatMap_cons, List.append_assoc, readLines_cons (readLine_pairLine (h pair (by simp)) _),
      ih fun p hp => h p (by simp [hp])]
    · cases readLines rest <;> rfl
    · simp only [List.length_append]
      omega

private theorem readLines_tableLines {table : String × List (String × String)} (hname : IsBare table.1)
    (h : ∀ pair ∈ table.2, IsBare pair.1) (rest : List Char) :
    readLines ((Document.tableLines table).toList ++ rest) =
      (readLines rest).map fun lines => (.table [table.1] :: pairLines table.2) ++ lines := by
  have htext : (Document.tableLines table).toList ++ rest = '\n' :: '[' :: (table.1.toList ++ ']' :: '\n' ::
      ((String.join (table.2.map Document.pairLine)).toList ++ rest)) := by
    simp [Document.tableLines]
  have hblank : ∀ us, readLine (skipSpace ('\n' :: us)) = some (none, us) := fun _ => rfl
  rw [htext, readLines_cons (hblank _) (by simp), readLines_cons (readLine_header hname _) (by simp; omega),
    readLines_pairLines h]
  cases readLines rest <;> rfl

/-- The keys of a document need no quotes, and none stands twice in its table. -/
structure Document.HasBareKeys (d : Document) : Prop where
  bare : ∀ pair ∈ d.pairs, IsBare pair.1
  tables : ∀ table ∈ d.tables, IsBare table.1 ∧ (∀ pair ∈ table.2, IsBare pair.1) ∧ (table.2.map (·.1)).Nodup
  nodup : (d.pairs.map (·.1) ++ d.tables.map (·.1)).Nodup

theorem Document.readLines_render {d : Document} (h : d.HasBareKeys) : readLines d.render.toList = some d.lines := by
  have htables : ∀ tables : List (String × List (String × String)),
      (∀ table ∈ tables, IsBare table.1 ∧ ∀ pair ∈ table.2, IsBare pair.1) →
      readLines (String.join (tables.map Document.tableLines)).toList =
        some (tables.flatMap fun table => .table [table.1] :: pairLines table.2) := by
    intro tables hbare
    rw [String.toList_join, List.flatMap_map]
    induction tables with
    | nil => rw [List.flatMap_nil, readLines]; rfl
    | cons table tables ih =>
      obtain ⟨hname, hpairs⟩ := hbare table (by simp)
      rw [List.flatMap_cons, readLines_tableLines hname hpairs, ih fun t ht => hbare t (by simp [ht])]
      rfl
  rw [Document.render, String.toList_append, readLines_pairLines h.bare,
    htables d.tables fun table ht => ⟨(h.tables table ht).1, (h.tables table ht).2.1⟩]
  rfl

/-! ### Tables -/

private theorem lookup_eq_none {entries : Entries} {key : String} (h : key ∉ entries.map (·.1)) :
    entries.lookup key = none := by
  rw [List.lookup_eq_none_iff]
  intro entry he
  have hne : key ≠ entry.1 := fun e => h (e ▸ List.mem_map_of_mem he)
  simpa using hne

private theorem sections_pairs (pairs : List Pair) (lines : List Line) :
    sections (pairs.map .pair ++ lines) = (pairs ++ (sections lines).1, (sections lines).2) := by
  induction pairs with
  | nil => rfl
  | cons p pairs ih => rw [List.map_cons, List.cons_append, sections, ih]; rfl

private theorem Document.sections_lines (d : Document) :
    sections d.lines = (pairsOf d.pairs, d.tables.map fun table => (.table [table.1], pairsOf table.2)) := by
  have htables : ∀ tables : List (String × List (String × String)),
      sections (tables.flatMap fun table => .table [table.1] :: pairLines table.2) =
        ([], tables.map fun table => (.table [table.1], pairsOf table.2)) := by
    intro tables
    induction tables with
    | nil => rfl
    | cons table tables ih =>
      rw [List.flatMap_cons, List.cons_append, sections, pairLines, sections_pairs, ih, List.append_nil]
      · rfl
      · simp
  rw [Document.lines, pairLines, sections_pairs, htables, List.append_nil]

/-- Pairs with new keys are put at the end. -/
private theorem insertAll_pairsOf {entries : Entries} {pairs : List (String × String)}
    (h : (entries.map (·.1) ++ pairs.map (·.1)).Nodup) :
    insertAll (pairsOf pairs) entries = some (entries ++ Document.entries pairs) := by
  induction pairs generalizing entries with
  | nil => simp [insertAll, pairsOf, Document.entries]
  | cons pair pairs ih =>
    obtain ⟨key, text⟩ := pair
    have hkey : key ∉ entries.map (·.1) := fun hm => (List.nodup_append.1 h).2.2 key hm key (by simp) rfl
    have hrest : ((entries ++ [(key, Node.text text)]).map (·.1) ++ pairs.map (·.1)).Nodup := by simpa using h
    have hstep : insertAll (pairsOf ((key, text) :: pairs)) entries =
        insertAll (pairsOf pairs) (entries ++ [(key, .text text)]) := by
      show (insert (.text text) [key] entries).bind _ = _
      rw [insert, lookup_eq_none hkey]
      rfl
    rw [hstep, ih hrest, List.append_assoc]
    rfl

/-- A table with a new name is put at the end. -/
private theorem addSection_table {entries : Entries} {table : String × List (String × String)}
    (hname : table.1 ∉ entries.map (·.1)) (hkeys : (table.2.map (·.1)).Nodup) :
    addSection entries (.table [table.1], pairsOf table.2) =
      some (entries ++ [(table.1, .table .header (Document.entries table.2))]) := by
  have hpairs : insertAll (pairsOf table.2) [] = some (Document.entries table.2) := insertAll_pairsOf hkeys
  rw [addSection, alterAt, lookup_eq_none hname, openTable, hpairs]
  rfl

theorem foldlM_addSection {entries : Entries} {tables : List (String × List (String × String))}
    (hnames : (entries.map (·.1) ++ tables.map (·.1)).Nodup) (hkeys : ∀ table ∈ tables, (table.2.map (·.1)).Nodup) :
    (tables.map fun table => (Line.table [table.1], pairsOf table.2)).foldlM addSection entries =
      some (entries ++ tables.map fun table => (table.1, .table .header (Document.entries table.2))) := by
  induction tables generalizing entries with
  | nil => simp
  | cons table tables ih =>
    have hname : table.1 ∉ entries.map (·.1) := fun hm => (List.nodup_append.1 hnames).2.2 _ hm _ (by simp) rfl
    have hrest : ((entries ++ [(table.1, Node.table .header (Document.entries table.2))]).map (·.1) ++
        tables.map (·.1)).Nodup := by simpa using hnames
    rw [List.map_cons, List.foldlM_cons, addSection_table hname (hkeys table (by simp))]
    show List.foldlM addSection (entries ++ [(table.1, .table .header (Document.entries table.2))]) _ = _
    rw [ih hrest fun t ht => hkeys t (by simp [ht]), List.append_assoc]
    rfl

private theorem skipByteOrderMark_render {d : Document} (h : d.HasBareKeys) :
    skipByteOrderMark d.render.toList = d.render.toList := by
  have hcons : ∀ c cs, c.toNat ≠ 0xFEFF → skipByteOrderMark (c :: cs) = c :: cs := fun c cs hc => if_neg hc
  obtain ⟨pairs, tables⟩ := d
  cases pairs with
  | nil =>
    cases tables with
    | nil => rfl
    | cons table tables =>
      obtain ⟨us, hus⟩ : ∃ us, (Document.render ⟨[], table :: tables⟩).toList = '\n' :: us := by
        simp [Document.render, Document.tableLines]
      rw [hus]
      exact hcons '\n' us (by decide)
  | cons pair pairs =>
    obtain ⟨hne, hbare⟩ := h.bare pair (by simp)
    obtain ⟨c, cs, hcs⟩ := List.exists_cons_of_ne_nil hne
    have hc : c.toNat ≠ 0xFEFF := by
      intro hc
      have hmark : c = Char.ofNat 0xFEFF := by rw [← hc, Char.ofNat_toNat]
      exact absurd (hbare c (by simp [hcs])) (by rw [hmark]; decide)
    obtain ⟨us, hus⟩ : ∃ us, (Document.render ⟨pair :: pairs, tables⟩).toList = c :: us := by
      simp [Document.render, Document.pairLine, hcs]
    rw [hus]
    exact hcons c us hc

/-- A document is read back as the table that it writes. -/
theorem Document.ofText?_render {d : Document} (h : d.HasBareKeys) : ofText? d.render = some d.toNode := by
  have hkeys : (d.pairs.map (·.1)).Nodup := (List.nodup_append.1 h.nodup).1
  have hentries : (Document.entries d.pairs).map (·.1) = d.pairs.map (·.1) := by
    rw [Document.entries, List.map_map]
    rfl
  have hassemble : assemble d.lines = some (Document.entries d.pairs ++
      d.tables.map fun table => (table.1, .table .header (Document.entries table.2))) := by
    rw [assemble, sections_lines]
    show (insertAll (pairsOf d.pairs) []).bind _ = _
    have hinsert : insertAll (pairsOf d.pairs) [] = some (Document.entries d.pairs) := insertAll_pairsOf hkeys
    rw [hinsert]
    exact foldlM_addSection (by rw [hentries]; exact h.nodup) fun t ht => (h.tables t ht).2.2
  rw [ofText?, skipByteOrderMark_render h, readLines_render h, Option.bind_some, hassemble]
  rfl

end GuardedCrud.Toml
