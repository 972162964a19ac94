/-!
# The order of texts and of their bytes

Texts are ordered by the code points of their characters.  UTF-8 keeps that order: the first byte tells how many bytes a
character takes, longer encodings begin with larger bytes, and encodings of one length are ordered by the code points
(`utf8EncodeChar_append_lt`).  So an increasing list of texts is increasing by bytes too (`bytesOf_lt`).
-/

namespace GuardedCrud.Text

/-- The bytes of a text in UTF-8. -/
def bytesOf (s : String) : List UInt8 := s.toUTF8.data.toList

private theorem bytesOf_eq (s : String) : bytesOf s = s.toList.flatMap String.utf8EncodeChar := by
  rw [bytesOf, String.toUTF8_eq_toByteArray, ← String.utf8Encode_toList, List.utf8Encode, List.toList_data_toByteArray]

/-- Bytes are ordered by the first one that differs. -/
private theorem ofNat_cons_lt {a b : Nat} (hb : b < 256) {l m : List UInt8} (h : a < b ∨ a = b ∧ l < m) :
    UInt8.ofNat a :: l < UInt8.ofNat b :: m := by
  rw [List.cons_lt_cons_iff]
  rcases h with h | ⟨rfl, h⟩
  · left
    rw [UInt8.lt_iff_toNat_lt, UInt8.toNat_ofNat', UInt8.toNat_ofNat']
    omega
  · exact .inr ⟨rfl, h⟩

/-- Of two numbers the smaller one has the smaller front, or the same front and the smaller end. -/
private theorem div_lt_or_mod_lt {v w : Nat} (h : v < w) (n : Nat) : v / n < w / n ∨ v / n = w / n ∧ v % n < w % n := by
  rcases Nat.lt_or_eq_of_le (Nat.div_le_div_right (c := n) (Nat.le_of_lt h)) with hlt | heq
  · exact .inl hlt
  · refine .inr ⟨heq, ?_⟩
    have hv := Nat.div_add_mod v n
    have hw := Nat.div_add_mod w n
    rw [heq] at hv
    omega

/-- Whatever follows two characters, their encodings are ordered as the characters are. -/
theorem utf8EncodeChar_append_lt {c d : Char} (h : c < d) (x y : List UInt8) :
    String.utf8EncodeChar c ++ x < String.utf8EncodeChar d ++ y := by
  have hlt : c.val.toNat < d.val.toNat := h
  have hmax : d.val.toNat < 1114112 := by
    rcases d.valid with hd | ⟨-, hd⟩
    · have : d.val.toNat < 55296 := hd
      omega
    · exact hd
  simp only [String.utf8EncodeChar]
  generalize c.val.toNat = v at hlt
  generalize d.val.toNat = w at hlt hmax
  have hfront : ∀ n, v / n < w / n ∨ v / n = w / n ∧ v % n < w % n := div_lt_or_mod_lt hlt
  by_cases hv₁ : v ≤ 127
  · rw [if_pos hv₁]
    repeat' split
    all_goals exact ofNat_cons_lt (by omega) (.inl (by omega))
  rw [if_neg hv₁, if_neg (by omega : ¬ w ≤ 127)]
  by_cases hv₂ : v ≤ 2047
  · rw [if_pos hv₂]
    by_cases hw₂ : w ≤ 2047
    · rw [if_pos hw₂]
      refine ofNat_cons_lt (by omega) ((hfront 64).imp (by omega) fun ⟨he, hl⟩ => ⟨by omega, ?_⟩)
      exact ofNat_cons_lt (by omega) (.inl (by omega))
    · rw [if_neg hw₂]
      split
      all_goals exact ofNat_cons_lt (by omega) (.inl (by omega))
  rw [if_neg hv₂, if_neg (by omega : ¬ w ≤ 2047)]
  by_cases hv₃ : v ≤ 65535
  · rw [if_pos hv₃]
    by_cases hw₃ : w ≤ 65535
    · rw [if_pos hw₃]
      refine ofNat_cons_lt (by omega) ((hfront 4096).imp (by omega) fun ⟨he, hl⟩ => ⟨by omega, ?_⟩)
      refine ofNat_cons_lt (by omega) ((hfront 64).imp (by omega) fun ⟨he', hl'⟩ => ⟨by omega, ?_⟩)
      exact ofNat_cons_lt (by omega) (.inl (by omega))
    · rw [if_neg hw₃]
      exact ofNat_cons_lt (by omega) (.inl (by omega))
  rw [if_neg hv₃, if_neg (by omega : ¬ w ≤ 65535)]
  refine ofNat_cons_lt (by omega) ((hfront 262144).imp (by omega) fun ⟨he, hl⟩ => ⟨by omega, ?_⟩)
  refine ofNat_cons_lt (by omega) ((hfront 4096).imp (by omega) fun ⟨he', hl'⟩ => ⟨by omega, ?_⟩)
  refine ofNat_cons_lt (by omega) ((hfront 64).imp (by omega) fun ⟨he'', hl''⟩ => ⟨by omega, ?_⟩)
  exact ofNat_cons_lt (by omega) (.inl (by omega))

/-- A smaller text has the smaller bytes. -/
theorem bytesOf_lt {a b : String} (h : a < b) : bytesOf a < bytesOf b := by
  rw [bytesOf_eq, bytesOf_eq]
  rw [String.lt_iff] at h
  generalize a.toList = cs at h
  generalize b.toList = ds at h
  induction cs generalizing ds with
  | nil =>
    cases ds with
    | nil => exact absurd h (List.lt_irrefl _)
    | cons d ds =>
      rw [List.flatMap_nil, List.flatMap_cons]
      cases he : String.utf8EncodeChar d with
      | nil => exact absurd he String.utf8EncodeChar_ne_nil
      | cons x xs => exact List.nil_lt_cons x _
  | cons c cs ih =>
    cases ds with
    | nil => exact absurd h (List.not_lt_nil _)
    | cons d ds =>
      rw [List.flatMap_cons, List.flatMap_cons]
      rcases List.cons_lt_cons_iff.1 h with hlt | ⟨rfl, hlt⟩
      · exact utf8EncodeChar_append_lt hlt _ _
      · exact List.append_left_lt (ih ds hlt)

end GuardedCrud.Text
