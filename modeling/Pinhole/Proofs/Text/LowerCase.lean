import Mathlib.Data.List.Forall2
import Pinhole.Text.Unicode

/-!
# Words in lower case

Of all characters that are not ASCII, only the kelvin sign and the capital
letter I with a dot have ASCII letters in their lower case, and the latter has
another character behind it.  So a text whose lower case is a word of small
ASCII letters is made of ASCII letters and of kelvin signs for `k`, whatever
lower case makes of all other characters.
-/

namespace Pinhole.Unicode

/-- Small ASCII letters only. -/
def IsWord (word : List Char) : Prop :=
  ∀ char ∈ word, 'a' ≤ char ∧ char ≤ 'z'

instance (word : List Char) : Decidable (IsWord word) :=
  List.decidableBAll (fun char => 'a' ≤ char ∧ char ≤ 'z') word

/-- What lower case is as far as ASCII letters are concerned. -/
structure IsLowerCase (fold : Char → List Char) : Prop where
  ascii : ∀ char, char ≤ '\x7f' → fold char = [char.toLower]
  kelvin : fold '\u212a' = ['k']
  dotted : fold '\u0130' = ['i', '\u0307']
  others : ∀ char, '\x7f' < char → char ≠ '\u212a' → char ≠ '\u0130' →
    ∃ first rest, fold char = first :: rest ∧ ¬('a' ≤ first ∧ first ≤ 'z')

theorem toLower_of_not_ascii {char : Char} (hchar : '\x7f' < char) :
    char.toLower = char := by
  unfold Char.toLower
  rw [dif_neg]
  rintro ⟨_, hle⟩
  have hlt : 'Z'.val < char.val := UInt32.lt_trans (by decide) hchar
  exact UInt32.not_lt.mpr hle hlt

theorem isLowerCase_lowerChar : IsLowerCase lowerChar where
  ascii := by
    intro char hchar
    have hkelvin : char ≠ '\u212a' := by
      rintro rfl
      exact absurd hchar (by decide)
    have hdotted : char ≠ '\u0130' := by
      rintro rfl
      exact absurd hchar (by decide)
    rw [lowerChar, if_neg hkelvin, if_neg hdotted]
  kelvin := rfl
  dotted := rfl
  others := by
    intro char hchar hkelvin hdotted
    refine ⟨char, [], ?_, ?_⟩
    · rw [lowerChar, if_neg hkelvin, if_neg hdotted,
        toLower_of_not_ascii hchar]
    · rintro ⟨_, hle⟩
      exact absurd (Std.lt_of_lt_of_le hchar hle) (by decide)

/-- A small letter is what a character becomes. -/
def Becomes (char letter : Char) : Prop :=
  (char ≤ '\x7f' ∧ char.toLower = letter) ∨ (char = '\u212a' ∧ letter = 'k')

section Fold

variable {fold : Char → List Char} {char : Char} {text word : List Char}

theorem flatMap_cons_of_singleton {letter : Char}
    (hchar : fold char = [letter])
    (hbecomes : ∀ other, Becomes char other ↔ letter = other)
    (ih : ∀ {word}, IsWord word →
      (text.flatMap fold = word ↔ List.Forall₂ Becomes text word))
    (hword : IsWord word) :
    (char :: text).flatMap fold = word ↔
      List.Forall₂ Becomes (char :: text) word := by
  rw [List.flatMap_cons, hchar, List.singleton_append]
  cases word with
  | nil => simp
  | cons first word =>
      have hrest : IsWord word :=
        fun char hmem => hword char (List.mem_cons_of_mem first hmem)
      rw [List.cons.injEq, List.forall₂_cons, ih hrest, hbecomes]

theorem flatMap_cons_of_mem {intruder : Char} (hmem : intruder ∈ fold char)
    (hintruder : ¬('a' ≤ intruder ∧ intruder ≤ 'z'))
    (hnever : ∀ letter, ¬Becomes char letter) (hword : IsWord word) :
    (char :: text).flatMap fold = word ↔
      List.Forall₂ Becomes (char :: text) word := by
  constructor
  · rintro rfl
    refine absurd (hword intruder ?_) hintruder
    rw [List.flatMap_cons]
    exact List.mem_append_left _ hmem
  · rintro (_ | ⟨hbecomes, _⟩)
    exact absurd hbecomes (hnever _)

theorem becomes_iff_of_ascii (hascii : char ≤ '\x7f') (letter : Char) :
    Becomes char letter ↔ char.toLower = letter := by
  constructor
  · rintro (⟨_, hlower⟩ | ⟨rfl, _⟩)
    · exact hlower
    · exact absurd hascii (by decide)
  · exact fun hlower => .inl ⟨hascii, hlower⟩

theorem not_becomes (hascii : ¬char ≤ '\x7f') (hkelvin : char ≠ '\u212a')
    (letter : Char) : ¬Becomes char letter := by
  rintro (⟨hle, _⟩ | ⟨hsame, _⟩)
  · exact hascii hle
  · exact hkelvin hsame

theorem flatMap_eq_word_iff (hfold : IsLowerCase fold) (hword : IsWord word) :
    text.flatMap fold = word ↔ List.Forall₂ Becomes text word := by
  induction text generalizing word with
  | nil =>
      rw [List.flatMap_nil, List.forall₂_nil_left_iff, eq_comm]
  | cons char text ih =>
      by_cases hascii : char ≤ '\x7f'
      · exact flatMap_cons_of_singleton (hfold.ascii char hascii)
          (becomes_iff_of_ascii hascii) ih hword
      · by_cases hkelvin : char = '\u212a'
        · subst hkelvin
          refine flatMap_cons_of_singleton hfold.kelvin ?_ ih hword
          intro other
          simp [Becomes, hascii, eq_comm]
        · have hnever := not_becomes hascii hkelvin
          by_cases hdotted : char = '\u0130'
          · subst hdotted
            have hmem : '\u0307' ∈ fold '\u0130' := by
              rw [hfold.dotted]
              decide
            exact flatMap_cons_of_mem hmem (by decide) hnever hword
          · obtain ⟨first, rest, hchar, hfirst⟩ :=
              hfold.others char (Std.not_le.mp hascii) hkelvin hdotted
            have hmem : first ∈ fold char := by
              rw [hchar]
              exact List.mem_cons_self
            exact flatMap_cons_of_mem hmem hfirst hnever hword

/-- Every lower case finds the same words. -/
theorem flatMap_eq_word_congr {other : Char → List Char}
    (hfold : IsLowerCase fold) (hother : IsLowerCase other)
    (hword : IsWord word) :
    text.flatMap fold = word ↔ text.flatMap other = word := by
  rw [flatMap_eq_word_iff hfold hword, flatMap_eq_word_iff hother hword]

/-- Without a `k` a word is found by looking at ASCII letters only. -/
theorem map_toLower_of_flatMap (hfold : IsLowerCase fold)
    (hword : IsWord word) (hnone : 'k' ∉ word)
    (hlower : text.flatMap fold = word) : text.map Char.toLower = word := by
  have hbecomes := (flatMap_eq_word_iff hfold hword).mp hlower
  clear hword hlower
  induction hbecomes with
  | nil => rfl
  | cons hbecomes _ ih =>
      rw [List.mem_cons, not_or] at hnone
      rcases hbecomes with ⟨_, rfl⟩ | ⟨_, hletter⟩
      · rw [List.map_cons, ih hnone.2]
      · exact absurd hletter.symm hnone.1

end Fold

end Pinhole.Unicode
