import GuardedCrud.Access.Guard
import GuardedCrud.Proofs.Access.Levels
import GuardedCrud.Proofs.Naming.Identifiers

/-!
# Guards of arbitrary texts

Whatever text stands for a level, its guard is a name that can be written in a program, and the two guards that are not
made of a role are given to no role: the guard of a role begins with `Auth`, which neither of them does.  So a text is
left unguarded or gets a well-known guard only if it says so (`guardOfText_of_isAscii`).
-/

namespace GuardedCrud.Naming

open GuardedCrud.Text

/-- In Pascal case a name of ASCII is written in letters and digits. -/
private theorem isAlphanum_of_mem_pascalCase {name : String} (h : name.toList.all isAscii = true) {d : Char}
    (hd : d ∈ (pascalCase name).toList) : d.isAlphanum = true := by
  rw [pascalCase, String.toList_ofList] at hd
  obtain ⟨w, hw, hd⟩ := List.mem_flatMap.1 hd
  obtain ⟨hascii, halnum⟩ := all_isAlphanum_of_mem_words h hw
  exact List.all_eq_true.1 (all_isAlphanum_capitalWord hascii halnum) d hd

end GuardedCrud.Naming

namespace GuardedCrud.Access

open GuardedCrud.Text

/-- The text is a letter and then letters and digits only. -/
def IsClassName (token : String) : Prop :=
  ∃ c cs, token.toList = c :: cs ∧ c.isAlpha = true ∧ cs.all Char.isAlphanum = true

/-- The guard of a role of ASCII. -/
private theorem guard_role_of_isAscii {name : String} (h : name.toList.all isAscii = true) :
    ∃ token, Conventions.guard {} (.role name) = some token ∧ IsClassName token ∧
      "Auth".toList <+: token.toList := by
  have hrest : ("Auth" ++ Naming.pascalCase name ++ "Guard").toList =
      'A' :: ("uth".toList ++ ((Naming.pascalCase name).toList ++ "Guard".toList)) := by
    rw [String.toList_append, String.toList_append, List.append_assoc]
    rfl
  have hname : (Naming.pascalCase name).toList.all Char.isAlphanum = true :=
    List.all_eq_true.2 fun d hd => Naming.isAlphanum_of_mem_pascalCase h hd
  refine ⟨_, rfl, ⟨'A', _, hrest, by decide, ?_⟩, _, hrest.symm⟩
  rw [List.all_append, List.all_append, hname]
  decide

/-- The guard of a text of ASCII under the usual names.

Nothing guards the text just if it says `public`, up to the blanks around it and the case of its letters.  Every other
text has a guard, which is a letter and then letters and digits; it is the guard of administrators just if the text is
blank or says `admin`, and the guard of users just if it says `user`.  So no role goes unguarded or under one of these
two. -/
theorem guardOfText_of_isAscii (text : String) (h : text.toList.all isAscii = true) :
    (Conventions.guardOfText {} (some text) = none ↔ Level.IsKeyword text "public") ∧
      (¬ Level.IsKeyword text "public" → ∃ token, Conventions.guardOfText {} (some text) = some token ∧
        IsClassName token ∧ (token = "AdminGuard" ↔ trim text.toList = [] ∨ Level.IsKeyword text "admin") ∧
        (token = "JwtAuthGuard" ↔ Level.IsKeyword text "user")) := by
  have hpublic := Level.ofText_eq_everyone_iff text
  have hadmin := Level.ofText_eq_admin_iff text
  have huser := Level.ofText_eq_user_iff text
  have hguard : Conventions.guardOfText {} (some text) = Conventions.guard {} (Level.ofText text) := rfl
  rw [hguard, ← hpublic, ← hadmin, ← huser]
  cases hlevel : Level.ofText text with
  | everyone => simp [Conventions.guard]
  | user =>
    refine ⟨by simp [Conventions.guard], fun _ => ⟨_, rfl, ⟨'J', _, rfl, by decide, by decide⟩, by simp, by simp⟩⟩
  | admin =>
    refine ⟨by simp [Conventions.guard], fun _ => ⟨_, rfl, ⟨'A', _, rfl, by decide, by decide⟩, by simp, by simp⟩⟩
  | role name =>
    have hname : name.toList.all isAscii = true := by
      rw [Level.eq_of_ofText_eq_role hlevel, String.toList_ofList]
      exact List.all_eq_true.2 fun c hc => List.all_eq_true.1 h c (mem_of_mem_trim hc)
    obtain ⟨token, htoken, hclass, hstart⟩ := guard_role_of_isAscii hname
    -- neither of the well-known guards begins as the guards of roles do
    have hne : ∀ known : String, ¬ "Auth".toList <+: known.toList → token ≠ known := by
      rintro known hknown rfl
      exact hknown hstart
    rw [htoken]
    exact ⟨by simp, fun _ => ⟨token, rfl, hclass, iff_of_false (hne _ (by decide)) (by simp),
      iff_of_false (hne _ (by decide)) (by simp)⟩⟩

/-- Texts that come close to the keywords: inner blanks and marks make roles of them, and a role of marks only has the
guard of an empty name. -/
theorem guardOfText_of_isAscii_near :
    Conventions.guardOfText {} (some "\tPuBlic ") = none ∧
      (∃ token, Conventions.guardOfText {} (some "ad-min") = some token ∧ IsClassName token ∧ token ≠ "AdminGuard") ∧
      ∃ token, Conventions.guardOfText {} (some "!?") = some token ∧ IsClassName token ∧ token ≠ "JwtAuthGuard" := by
  have hpublic := (guardOfText_of_isAscii "\tPuBlic " (by decide)).1
  obtain ⟨token, htoken, hclass, hadmin, -⟩ := (guardOfText_of_isAscii "ad-min" (by decide)).2 (by decide)
  obtain ⟨token', htoken', hclass', -, huser⟩ := (guardOfText_of_isAscii "!?" (by decide)).2 (by decide)
  refine ⟨hpublic.2 (by decide), ⟨token, htoken, hclass, ?_⟩, ⟨token', htoken', hclass', ?_⟩⟩
  · exact mt hadmin.1 (by decide)
  · exact mt huser.1 (by decide)

end GuardedCrud.Access
