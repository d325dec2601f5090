import Mathlib.Data.List.Basic
import Pinhole.Text.Decimal

/-!
# Which texts denote which numbers

Reading compares with its limit after every digit.  A number only grows by the
digits behind it, so this refuses exactly those texts whose whole number is
above the limit.
-/

namespace Pinhole.Decimal

/-- One or more ASCII digits write a number, leading zeros allowed. -/
structure Denotes (digits : List Char) (number : Nat) : Prop where
  nonempty : digits ≠ []
  ascii : ∀ char ∈ digits, '0' ≤ char ∧ char ≤ '9'
  value : Nat.ofDigitChars 10 digits 0 = number

theorem digit?_eq_some_iff {char : Char} {digit : Nat} :
    digit? char = some digit ↔
      ('0' ≤ char ∧ char ≤ '9') ∧ char.toNat - '0'.toNat = digit := by
  rw [digit?, Option.ite_none_right_eq_some, Option.some.injEq]

theorem le_ofDigitChars (digits : List Char) (sofar : Nat) :
    sofar ≤ Nat.ofDigitChars 10 digits sofar := by
  induction digits generalizing sofar with
  | nil => exact Nat.le_refl sofar
  | cons char digits ih =>
      have hgrows := ih (10 * sofar + (char.toNat - '0'.toNat))
      rw [Nat.ofDigitChars_cons]
      omega

theorem readDigits_eq_ok_iff {limit sofar value : Nat} {digits : List Char}
    (hsofar : sofar ≤ limit) :
    readDigits limit sofar digits = .ok value ↔
      (∀ char ∈ digits, '0' ≤ char ∧ char ≤ '9') ∧
        Nat.ofDigitChars 10 digits sofar = value ∧ value ≤ limit := by
  induction digits generalizing sofar with
  | nil =>
      rw [readDigits, Except.ok.injEq, Nat.ofDigitChars_nil]
      constructor
      · rintro rfl
        exact ⟨by simp, rfl, hsofar⟩
      · exact fun hread => hread.2.1
  | cons char digits ih =>
      rw [readDigits, List.forall_mem_cons, Nat.ofDigitChars_cons]
      cases hdigit : digit? char with
      | none =>
          have hno : ¬('0' ≤ char ∧ char ≤ '9') := by
            intro hchar
            rw [digit?, if_pos hchar] at hdigit
            cases hdigit
          simp [hno]
      | some digit =>
          obtain ⟨hchar, rfl⟩ := digit?_eq_some_iff.mp hdigit
          dsimp only
          split
          case isTrue hnext => rw [ih hnext, and_assoc, and_iff_right hchar]
          case isFalse hlarge =>
            constructor
            · intro hread
              cases hread
            · rintro ⟨_, rfl, hle⟩
              have hgrows := le_ofDigitChars digits
                (10 * sofar + (char.toNat - '0'.toNat))
              omega

theorem readDigits_zero_eq_ok_iff {limit value : Nat} {digits : List Char}
    (hnonempty : digits ≠ []) :
    readDigits limit 0 digits = .ok value ↔
      Denotes digits value ∧ value ≤ limit := by
  rw [readDigits_eq_ok_iff (Nat.zero_le limit)]
  constructor
  · rintro ⟨hdigits, hvalue, hle⟩
    exact ⟨⟨hnonempty, hdigits, hvalue⟩, hle⟩
  · rintro ⟨hdenotes, hle⟩
    exact ⟨hdenotes.ascii, hdenotes.value, hle⟩

theorem not_denotes_plus {digits : List Char} {value : Nat} :
    ¬Denotes ('+' :: digits) value := by
  intro hdenotes
  exact absurd (hdenotes.ascii '+' List.mem_cons_self) (by decide)

/-- A number is read from its digits, with or without a plus sign. -/
theorem read_eq_ok_iff {limit value : Nat} {text : List Char} :
    read limit text = .ok value ↔
      ∃ digits, (text = digits ∨ text = '+' :: digits) ∧
        Denotes digits value ∧ value ≤ limit := by
  unfold read
  split
  · constructor
    · intro hread
      cases hread
    · rintro ⟨digits, rfl | hplus, hdenotes, _⟩
      · exact absurd rfl hdenotes.nonempty
      · cases hplus
  · constructor
    · intro hread
      cases hread
    · rintro ⟨digits, rfl | hplus, hdenotes, _⟩
      · exact absurd hdenotes not_denotes_plus
      · obtain rfl := (List.cons.inj hplus).2
        exact absurd rfl hdenotes.nonempty
  · next digits hnonempty =>
      rw [readDigits_zero_eq_ok_iff (by simpa using hnonempty)]
      constructor
      · intro hread
        exact ⟨digits, .inr rfl, hread⟩
      · rintro ⟨others, rfl | hplus, hread⟩
        · exact absurd hread.1 not_denotes_plus
        · obtain rfl := (List.cons.inj hplus).2
          exact hread
  · next hnonempty _ hunsigned =>
      rw [readDigits_zero_eq_ok_iff (by simpa using hnonempty)]
      constructor
      · intro hread
        exact ⟨text, .inl rfl, hread⟩
      · rintro ⟨digits, rfl | rfl, hread⟩
        · exact hread
        · exact absurd rfl (hunsigned digits)

theorem denotes_write (value : Nat) : Denotes (write value) value where
  nonempty := Nat.toDigits_ne_nil
  ascii := by
    intro char hmem
    have hdigit := Nat.isDigit_of_mem_toDigits (by decide) (by decide) hmem
    rw [Char.isDigit, Bool.and_eq_true, decide_eq_true_eq, decide_eq_true_eq]
      at hdigit
    exact hdigit
  value := Nat.ofDigitChars_ten_toDigits

theorem head?_write_ne {value : Nat} (hpositive : 0 < value) :
    (write value).head? ≠ some '0' := by
  induction value using Nat.strongRecOn with
  | ind value ih =>
      rw [write, Nat.toDigits_eq_if (by decide)]
      split
      case isTrue hsmall =>
        have hnonzero :
            ∀ digit < 10, 0 < digit → Nat.digitChar digit ≠ '0' := by
          decide
        simpa using hnonzero value hsmall hpositive
      case isFalse hlarge =>
        have hrest := ih (value / 10) (by omega) (by omega)
        rw [write] at hrest
        rwa [List.head?_append_of_ne_nil _ Nat.toDigits_ne_nil]

end Pinhole.Decimal
