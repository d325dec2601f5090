import Mathlib.Data.List.Basic
import Mathlib.Data.Nat.Digits.Defs
import Pinhole.Proofs.Text.Cutting
import Pinhole.Proofs.Text.Numerals
import Pinhole.Proofs.Toml.Strings
import Pinhole.Toml.Document

/-!
# Printed keys and numbers are read back

A key ends where its characters or its quotes end, a number at the line break
behind it.  A number that is printed has no leading zeros and nothing but
digits, so it can be taken for nothing else.
-/

namespace Pinhole.Toml

/-! ## Keys -/

theorem readKeyPart_bare {key : List Char} (hbare : isBareKey key = true)
    {rest : List Char}
    (hrest : ∀ char, rest.head? = some char → isBareKeyChar char = false) :
    readKeyPart (key ++ rest) = some (String.ofList key, rest) := by
  obtain ⟨hnonempty, hall⟩ : key ≠ [] ∧ ∀ char ∈ key, isBareKeyChar char := by
    simpa [isBareKey] using hbare
  obtain ⟨htake, hdrop⟩ := takeWhile_append_of_all hall hrest
  cases key with
  | nil => exact absurd rfl hnonempty
  | cons char others =>
      have hchar := hall char List.mem_cons_self
      rw [List.cons_append] at htake hdrop ⊢
      unfold readKeyPart
      split
      · next hcons =>
          obtain ⟨rfl, _⟩ := List.cons.inj hcons
          exact absurd hchar (by decide)
      · next hcons =>
          obtain ⟨rfl, _⟩ := List.cons.inj hcons
          exact absurd hchar (by decide)
      · simp only [htake, hdrop]
        rfl

theorem readKeyPart_printKey (key : String) {rest : List Char}
    (hrest : ∀ char, rest.head? = some char → isBareKeyChar char = false) :
    readKeyPart (printKey key ++ rest) = some (key, rest) := by
  unfold printKey
  split
  case isTrue hbare =>
    rw [readKeyPart_bare hbare hrest, String.ofList_toList]
  case isFalse hquoted =>
    have hread := readBasic_escapeLine key.toList rest
    rw [List.cons_append, List.cons_append, List.append_assoc,
      List.singleton_append, readKeyPart, hread]
    simp only [Option.map_some, String.ofList_toList]

/-- A printed key starts with a letter, a digit, an underscore, a hyphen or a
quotation mark. -/
theorem exists_head_printKey (key : String) :
    ∃ first others, printKey key = first :: others ∧
      (isBareKeyChar first = true ∨ first = '"') := by
  unfold printKey
  split
  case isTrue hbare =>
    obtain ⟨hnonempty, hall⟩ :
        key.toList ≠ [] ∧ ∀ char ∈ key.toList, isBareKeyChar char := by
      simpa [isBareKey] using hbare
    obtain ⟨first, others, hkey⟩ := List.exists_cons_of_ne_nil hnonempty
    rw [hkey] at hall ⊢
    exact ⟨first, others, rfl, Or.inl (hall first List.mem_cons_self)⟩
  case isFalse hquoted => exact ⟨'"', _, rfl, Or.inr rfl⟩

theorem isBlank_of_head {first : Char}
    (hfirst : isBareKeyChar first = true ∨ first = '"') :
    isBlank first = false := by
  rcases hfirst with hbare | rfl
  · by_contra hblank
    rw [Bool.not_eq_false, isBlank, decide_eq_true_eq] at hblank
    rcases hblank with rfl | rfl <;> revert hbare <;> decide
  · decide

/-- A key is read up to the mark behind it. -/
theorem readKey_printKey (key : String) (mark : Char)
    (hmark : isBlank mark = false) (hbare : isBareKeyChar mark = false)
    (hdot : mark ≠ '.') {blank : List Char}
    (hblank : blank = [] ∨ blank = [' ']) (rest : List Char) :
    readKey (printKey key ++ (blank ++ mark :: rest)) =
      some ([key], mark :: rest) := by
  obtain ⟨first, others, hprint, hfirst⟩ := exists_head_printKey key
  have hstart : dropBlank (printKey key ++ (blank ++ mark :: rest)) =
      printKey key ++ (blank ++ mark :: rest) := by
    rw [hprint, List.cons_append, dropBlank,
      List.dropWhile_cons_of_neg (by simp [isBlank_of_head hfirst])]
  have hkeeps : dropBlank (mark :: rest) = mark :: rest :=
    List.dropWhile_cons_of_neg (by simp [hmark])
  have hend : dropBlank (blank ++ mark :: rest) = mark :: rest := by
    rcases hblank with rfl | rfl
    · exact hkeeps
    · exact (List.dropWhile_cons_of_pos (by decide)).trans hkeeps
  have hstop : ∀ char, (blank ++ mark :: rest).head? = some char →
      isBareKeyChar char = false := by
    rcases hblank with rfl | rfl
    · simpa using hbare
    · simp; decide
  have hpath : readPath (printKey key ++ (blank ++ mark :: rest)) =
      some ([key], mark :: rest) := by
    rw [readPath, hstart, readKeyPart_printKey key hstop]
    simp only [hend]
    split
    · next hcons => exact absurd (List.cons.inj hcons).1 hdot
    · rfl
  simp only [readKey, hpath, bind, Option.bind_some, List.length_singleton]
  rfl

/-! ## Numbers -/

theorem isDigit_of_mem_write {value : Nat} {char : Char}
    (hmem : char ∈ Decimal.write value) : isDigit char = true := by
  rw [isDigit, decide_eq_true_eq]
  exact (Decimal.denotes_write value).ascii char hmem

theorem digitsValue_write (value : Nat) :
    digitsValue 10 (Decimal.write value) = value := by
  have hvalue : Nat.ofDigitChars 10 (Decimal.write value) 0 = value :=
    Nat.ofDigitChars_toDigits (by decide) (by decide)
  rw [digitsValue]
  rw [Nat.ofDigitChars] at hvalue
  refine Eq.trans (List.foldl_ext _ _ _ ?_) hvalue
  intro sofar char hmem
  have hdigit := isDigit_of_mem_write hmem
  rw [isDigit, decide_eq_true_eq] at hdigit
  rw [Hex.digit?, if_pos hdigit]

theorem cutAt_of_forall {isMark : Char → Bool} {text : List Char}
    (hnone : ∀ char ∈ text, isMark char = false) :
    cutAt isMark text = (text, none) := by
  have hall : ∀ char ∈ text, (!isMark char) = true := by
    simpa using hnone
  rw [cutAt, List.takeWhile_eq_self_iff.mpr hall,
    List.dropWhile_eq_nil_iff.mpr hall]

section Digits

variable {digits : List Char}

theorem notMem_of_digits (hdigits : ∀ char ∈ digits, isDigit char = true)
    {mark : Char} (hmark : isDigit mark = false) : mark ∉ digits := by
  intro hmem
  rw [hdigits mark hmem] at hmark
  cases hmark

theorem isDate_of_digits (hdigits : ∀ char ∈ digits, isDigit char = true) :
    isDate digits = false := by
  rw [isDate, fields_of_notMem (notMem_of_digits hdigits (by decide))]

theorem isTime_of_digits (hdigits : ∀ char ∈ digits, isDigit char = true) :
    isTime digits = false := by
  have hcut : cutAt (· = '.') digits = (digits, none) := by
    apply cutAt_of_forall
    intro char hmem
    rw [decide_eq_false_iff_not]
    rintro rfl
    exact notMem_of_digits hdigits (by decide) hmem
  simp only [isTime, hcut,
    fields_of_notMem (notMem_of_digits hdigits (by decide : isDigit ':' = _))]

theorem isDateTime_of_digits
    (hdigits : ∀ char ∈ digits, isDigit char = true) :
    isDateTime digits = false := by
  have hstart : ∀ char ∈ digits.take 10, isDigit char = true :=
    fun char hmem => hdigits char (List.mem_of_mem_take hmem)
  rw [isDateTime, isTime_of_digits hdigits, isDate_of_digits hdigits,
    isDate_of_digits hstart]
  rfl

theorem splitSign_of_digits (hdigits : ∀ char ∈ digits, isDigit char = true) :
    splitSign digits = (false, digits) := by
  have hplus := notMem_of_digits hdigits (by decide : isDigit '+' = false)
  have hminus := notMem_of_digits hdigits (by decide : isDigit '-' = false)
  unfold splitSign
  split
  · exact absurd List.mem_cons_self hplus
  · exact absurd List.mem_cons_self hminus
  · rfl

theorem isFloat_of_digits (hdigits : ∀ char ∈ digits, isDigit char = true) :
    isFloat digits = false := by
  have hspecial :
      ¬ (digits = ['i', 'n', 'f'] ∨ digits = ['n', 'a', 'n']) := by
    have hletter := notMem_of_digits hdigits (by decide : isDigit 'n' = false)
    rintro (rfl | rfl) <;> exact hletter (by decide)
  have hexponent :
      cutAt (fun char => char = 'e' ∨ char = 'E') digits = (digits, none) := by
    apply cutAt_of_forall
    intro char hmem
    rw [decide_eq_false_iff_not]
    rintro (rfl | rfl) <;> exact notMem_of_digits hdigits (by decide) hmem
  have hfraction : cutAt (· = '.') digits = (digits, none) := by
    apply cutAt_of_forall
    intro char hmem
    rw [decide_eq_false_iff_not]
    rintro rfl
    exact notMem_of_digits hdigits (by decide) hmem
  simp only [isFloat, splitSign_of_digits hdigits, if_neg hspecial, hexponent,
    hfraction, Option.isSome_none, Bool.or_self, Bool.and_false,
    Bool.false_and, Bool.false_eq_true, if_false]

theorem integer?_of_digits (hdigits : ∀ char ∈ digits, isDigit char = true)
    (hplain : isPlainDecimal digits = true) :
    integer? digits = inRange? (digitsValue 10 digits) := by
  have hsplit := splitSign_of_digits hdigits
  have hnot (mark : Char) (hmark : isDigit mark = false) : mark ∉ digits :=
    notMem_of_digits hdigits hmark
  unfold integer?
  split
  · exact absurd (by simp) (hnot 'x' (by decide))
  · exact absurd (by simp) (hnot 'o' (by decide))
  · exact absurd (by simp) (hnot 'b' (by decide))
  · simp only [hsplit, if_pos hplain, Bool.false_eq_true, if_false]

end Digits

theorem isPlainDecimal_write (value : Nat) :
    isPlainDecimal (Decimal.write value) = true := by
  have hdigits : ∀ char ∈ Decimal.write value, isDigit char = true :=
    fun _ => isDigit_of_mem_write
  have hnonempty : Decimal.write value ≠ [] := Nat.toDigits_ne_nil
  have hrun : isDigitRun isDigit (Decimal.write value) = true := by
    rw [isDigitRun, fields_of_notMem (notMem_of_digits hdigits (by decide))]
    simpa [hnonempty] using hdigits
  have hhead : (Decimal.write value).length = 1 ∨
      (Decimal.write value).head? ≠ some '0' := by
    rcases Nat.eq_zero_or_pos value with rfl | hpositive
    · exact Or.inl rfl
    · exact Or.inr (Decimal.head?_write_ne hpositive)
  simpa [isPlainDecimal, hrun] using hhead

theorem bareValue?_write {value : Nat} (hlt : value < integerLimit) :
    bareValue? (Decimal.write value) = some (.integer value) := by
  have hdigits : ∀ char ∈ Decimal.write value, isDigit char = true :=
    fun _ => isDigit_of_mem_write
  have hletter := notMem_of_digits hdigits (by decide : isDigit 'e' = false)
  have htrue : Decimal.write value ≠ ['t', 'r', 'u', 'e'] := by
    intro heq
    exact hletter (heq ▸ by decide)
  have hfalse : Decimal.write value ≠ ['f', 'a', 'l', 's', 'e'] := by
    intro heq
    exact hletter (heq ▸ by decide)
  have hrange : inRange? value = some (value : Int) := by
    rw [inRange?, if_pos (by omega)]
  rw [bareValue?, if_neg htrue, if_neg hfalse, isDateTime_of_digits hdigits,
    isFloat_of_digits hdigits,
    integer?_of_digits hdigits (isPlainDecimal_write value),
    digitsValue_write, hrange]
  rfl

theorem readValue_of_isDigit {first : Char} (hfirst : isDigit first = true)
    (depth : Nat) (others : List Char) :
    readValue depth (first :: others) = readBare (first :: others) := by
  have hnot {mark : Char} {rest : List Char} (hmark : isDigit mark = false)
      (hcons : first :: others = mark :: rest) : False := by
    rw [← (List.cons.inj hcons).1, hfirst] at hmark
    cases hmark
  rw [readValue.eq_def]
  split
  · next hcons => exact (hnot (by decide) hcons).elim
  · next hcons => exact (hnot (by decide) hcons).elim
  · next hcons => exact (hnot (by decide) hcons).elim
  · next hcons => exact (hnot (by decide) hcons).elim
  · next hcons => exact (hnot (by decide) hcons).elim
  · next hcons => exact (hnot (by decide) hcons).elim
  · rfl

theorem readBare_digits {digits : List Char}
    (hdigits : ∀ char ∈ digits, isDigit char = true) (rest : List Char) :
    readBare (digits ++ '\n' :: rest) =
      (bareValue? digits).map fun value => (value, '\n' :: rest) := by
  have htoken : ∀ char ∈ digits, (!isDelimiter char) = true := by
    intro char hmem
    have hdigit := hdigits char hmem
    rw [Bool.not_eq_true', isDelimiter, decide_eq_false_iff_not]
    intro hdelimiter
    simp only [List.mem_cons, List.not_mem_nil, or_false] at hdelimiter
    rcases hdelimiter with rfl | rfl | rfl | rfl | rfl | rfl | rfl | rfl <;>
      exact absurd hdigit (by decide)
  have hstop : ∀ char, ('\n' :: rest).head? = some char →
      (!isDelimiter char) = false := by
    rintro char ⟨⟩
    decide
  obtain ⟨htake, hdrop⟩ := takeWhile_append_of_all htoken hstop
  have htext : bareText (digits ++ '\n' :: rest) = (digits, '\n' :: rest) := by
    simp only [bareText, htake, hdrop]
    split
    · next hcons => exact absurd (List.cons.inj hcons).1 (by decide)
    · rfl
  simp only [readBare, htext]
  cases bareValue? digits <;> rfl

theorem readValue_write {value : Nat} (hlt : value < integerLimit)
    (depth : Nat) (rest : List Char) :
    readValue depth (Decimal.write value ++ '\n' :: rest) =
      some (.integer value, '\n' :: rest) := by
  have hdigits : ∀ char ∈ Decimal.write value, isDigit char = true :=
    fun _ => isDigit_of_mem_write
  have hread := readBare_digits hdigits rest
  rw [bareValue?_write hlt, Option.map_some] at hread
  have hnonempty : Decimal.write value ≠ [] := Nat.toDigits_ne_nil
  obtain ⟨first, others, hwrite⟩ := List.exists_cons_of_ne_nil hnonempty
  rw [hwrite] at hdigits hread ⊢
  rw [List.cons_append,
    readValue_of_isDigit (hdigits first List.mem_cons_self)]
  exact hread

/-! ## Statements -/

/-- What a printed value is read as. -/
def Scalar.value : Scalar → Value
  | string text => .string text
  | natural value => .integer value

/-- A number that is not too large to be read. -/
def Scalar.IsReadable : Scalar → Prop
  | string _ => True
  | natural value => value < integerLimit

theorem readValue_printString (text : String) (depth : Nat)
    (rest : List Char) :
    readValue depth (printString text.toList ++ '\n' :: rest) =
      some (.string text, '\n' :: rest) := by
  have hquotation : ('\n' :: rest).head? ≠ some '"' := by simp
  have hapostrophe : ('\n' :: rest).head? ≠ some '\'' := by simp
  have hread := readString_printString text.toList hquotation hapostrophe
  obtain ⟨quote, others, hprint, hquote⟩ := exists_head_printString text.toList
  rw [hprint, List.cons_append] at hread ⊢
  rcases hquote with rfl | rfl
  · rw [readValue, hread]
    simp only [Option.map_some, String.ofList_toList]
  · rw [readValue, hread]
    simp only [Option.map_some, String.ofList_toList]

theorem readValue_print (scalar : Scalar) (hreadable : scalar.IsReadable)
    (depth : Nat) (rest : List Char) :
    readValue depth (scalar.print ++ '\n' :: rest) =
      some (scalar.value, '\n' :: rest) := by
  cases scalar with
  | natural value => exact readValue_write hreadable depth rest
  | string text => exact readValue_printString text depth rest

/-- No value starts with a blank. -/
theorem readValue_of_isBlank {char : Char} (hblank : isBlank char = true)
    (depth : Nat) (rest : List Char) :
    readValue depth (char :: rest) = none := by
  have hdelimiter : (!isDelimiter char) = false := by
    rw [isBlank, decide_eq_true_eq] at hblank
    rcases hblank with rfl | rfl <;> decide
  have htext : bareText (char :: rest) = ([], char :: rest) := by
    have hdate : isDate [] = false := by decide
    simp only [bareText, List.takeWhile_cons, List.dropWhile_cons, hdelimiter]
    split <;> simp [hdate]
  have hnone : bareValue? [] = none := by decide
  have hbare : readBare (char :: rest) = none := by
    simp [readBare, htext, hnone]
  rw [isBlank, decide_eq_true_eq] at hblank
  rcases hblank with rfl | rfl
  · rw [readValue.eq_def]
    exact hbare
  · rw [readValue.eq_def]
    exact hbare

theorem dropBlank_of_readValue {depth : Nat} {text rest : List Char}
    {value : Value} (hread : readValue depth text = some (value, rest)) :
    dropBlank text = text := by
  cases text with
  | nil => rfl
  | cons char text =>
      apply List.dropWhile_cons_of_neg
      intro hblank
      rw [readValue_of_isBlank hblank] at hread
      cases hread

/-- A printed key does not start like a header. -/
theorem head_printKey_ne {key : String} {mark : Char}
    (hmark : isBareKeyChar mark = false) (hquotation : mark ≠ '"')
    {rest others : List Char} : printKey key ++ rest ≠ mark :: others := by
  obtain ⟨first, tail, hprint, hfirst⟩ := exists_head_printKey key
  rw [hprint, List.cons_append]
  intro hcons
  obtain ⟨rfl, _⟩ := List.cons.inj hcons
  rcases hfirst with hbare | hquote
  · rw [hbare] at hmark
    cases hmark
  · exact hquotation hquote

/-- A key is read with its value, in whatever form that is written. -/
theorem readStatement_assignment (key : String) {written rest : List Char}
    {value : Value}
    (hread : readValue (depthLimit - 1) (written ++ '\n' :: rest) =
      some (value, '\n' :: rest)) :
    readStatement
        (printKey key ++ ([' ', '=', ' '] ++ (written ++ '\n' :: rest))) =
      some (.assign [key] value, '\n' :: rest) := by
  have hkey := readKey_printKey key '=' (by decide) (by decide)
    (by decide) (Or.inr rfl) (' ' :: (written ++ '\n' :: rest))
  have hblank : dropBlank (' ' :: (written ++ '\n' :: rest)) =
      written ++ '\n' :: rest := by
    rw [dropBlank, List.dropWhile_cons_of_pos (by decide)]
    exact dropBlank_of_readValue hread
  have hpair : readPair (readValue (depthLimit - 1))
      (printKey key ++ ([' ', '=', ' '] ++ (written ++ '\n' :: rest))) =
        some (([key], value), '\n' :: rest) := by
    simp only [List.cons_append, List.nil_append] at hkey ⊢
    simp only [readPair, hkey, bind, Option.bind_some, hblank, hread]
    rfl
  unfold readStatement
  split
  · next hcons => exact absurd hcons (head_printKey_ne (by decide) (by decide))
  · next hcons => exact absurd hcons (head_printKey_ne (by decide) (by decide))
  · rw [hpair]
    rfl

theorem readStatement_header (name : String) (rest : List Char) :
    readStatement ('[' :: (printKey name ++ ']' :: rest)) =
      some (.table [name], rest) := by
  have hkey := readKey_printKey name ']' (by decide) (by decide)
    (by decide) (Or.inl rfl) rest
  rw [List.nil_append] at hkey
  unfold readStatement
  split
  · next hcons =>
      exact absurd (List.cons.inj hcons).2
        (head_printKey_ne (by decide) (by decide))
  · next hcons =>
      obtain rfl := (List.cons.inj hcons).2
      rw [hkey]
      rfl
  · next hnot => exact absurd rfl (hnot _)

end Pinhole.Toml
