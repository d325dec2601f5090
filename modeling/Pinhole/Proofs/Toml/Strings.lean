import Mathlib.Data.List.Basic
import Pinhole.Toml.Printer
import Pinhole.Toml.Quoted

/-!
# Printed strings are read back

A string is printed in one of six ways, and each of them gives the string back
to the reader, whatever follows it other than a further quote.  A text that is
printed on several lines may hold quotes itself; the reader is followed with
the quotes in front of it that are not read yet, of which there are never more
than two.
-/

namespace Pinhole.Toml

/-! ## Escapes -/

theorem read?_writePadded_of_lt : ∀ number < 128,
    (Hex.writePadded 4 number).length = 4 ∧
      Hex.read? (Hex.writePadded 4 number) = some number := by
  decide +kernel

theorem isControl_lt {char : Char} (hcontrol : isControl char = true) :
    char.toNat < 128 := by
  simp only [isControl, decide_eq_true_eq] at hcontrol
  rcases hcontrol with ⟨hlt, _⟩ | rfl
  · exact Nat.lt_trans hlt (by decide)
  · decide

theorem unicode?_writePadded {char : Char} (hlt : char.toNat < 128)
    (rest : List Char) :
    unicode? 4 (Hex.writePadded 4 char.toNat ++ rest) = some (char, rest) := by
  obtain ⟨hlength, hread⟩ := read?_writePadded_of_lt char.toNat hlt
  have htake :
      (Hex.writePadded 4 char.toNat ++ rest).take 4 =
        Hex.writePadded 4 char.toNat :=
    List.take_left' hlength
  have hdrop : (Hex.writePadded 4 char.toNat ++ rest).drop 4 = rest :=
    List.drop_left' hlength
  have hcharacter : character? char.toNat = some char := by
    have hvalid : char.toNat.isValidChar := char.valid
    rw [character?, if_pos hvalid, Char.ofNat_toNat]
  simp only [unicode?, htake, hdrop, if_pos hlength, hread, bind,
    Option.bind_some, hcharacter, pure]

/-- An escape is a backslash and a mark that is read as the character. -/
theorem exists_mark {char : Char} {escape : List Char}
    (hescaped : escaped? char = some escape) :
    ∃ mark, escape = '\\' :: mark ∧ ∀ rest,
      escape? (mark ++ rest) = some (char, rest) ∧
        continuation? (mark ++ rest) = none := by
  unfold escaped? at hescaped
  iterate 7
    split at hescaped
    · subst_vars
      obtain rfl := Option.some.inj hescaped
      exact ⟨_, rfl, fun rest => ⟨rfl, rfl⟩⟩
  split at hescaped
  case isTrue hcontrol =>
    obtain rfl := Option.some.inj hescaped
    refine ⟨_, rfl, fun rest => ⟨?_, rfl⟩⟩
    exact unicode?_writePadded (isControl_lt hcontrol) rest
  case isFalse hcontrol => cases hescaped

theorem tab_or_printable {char : Char} (hcontrol : isControl char = false)
    (hbreak : char ≠ '\n') :
    char = '\t' ∨ (' ' ≤ char ∧ char ≠ '\x7f') := by
  simp only [isControl, decide_eq_false_iff_not, not_or, not_and,
    not_not] at hcontrol
  by_cases htab : char = '\t'
  · exact Or.inl htab
  · refine Or.inr ⟨?_, hcontrol.2⟩
    by_contra hsmall
    exact hbreak (hcontrol.1 (Char.not_le.mp hsmall) htab)

/-- What is not escaped stands for itself. -/
theorem isBasicChar_of_escaped? {char : Char} (hplain : escaped? char = none) :
    isBasicChar char = true := by
  unfold escaped? at hplain
  iterate 8
    split at hplain
    · cases hplain
  rename_i _ _ hbreak _ _ hquotation hbackslash hcontrol
  rw [isBasicChar, decide_eq_true_eq]
  rcases tab_or_printable (Bool.eq_false_iff.mpr hcontrol) hbreak with
    htab | ⟨hprintable, hdelete⟩
  · exact Or.inl htab
  · exact Or.inr ⟨hprintable, hquotation, hbackslash, hdelete⟩

/-! ## Strings on one line -/

theorem ne_of_isBasicChar {char : Char} (hbasic : isBasicChar char = true) :
    char ≠ '"' ∧ char ≠ '\\' ∧ char ≠ '\n' ∧ char ≠ '\r' := by
  refine ⟨?_, ?_, ?_, ?_⟩ <;> rintro rfl <;> revert hbasic <;> decide

theorem readBasic_cons {char : Char} (hbasic : isBasicChar char = true)
    (rest : List Char) :
    readBasic (char :: rest) = prepend char (readBasic rest) := by
  obtain ⟨hquotation, hbackslash, _, _⟩ := ne_of_isBasicChar hbasic
  rw [readBasic.eq_def]
  split
  · next hnil => cases hnil
  · next hcons => exact absurd (List.cons.inj hcons).1 hquotation
  · next hcons => exact absurd (List.cons.inj hcons).1 hbackslash
  · next hcons =>
      obtain ⟨rfl, rfl⟩ := List.cons.inj hcons
      rw [if_pos hbasic]

theorem readBasic_escape {text rest : List Char} {char : Char}
    (hescape : escape? text = some (char, rest)) :
    readBasic ('\\' :: text) = prepend char (readBasic rest) := by
  rw [readBasic]
  split
  · next hnone =>
      rw [hescape] at hnone
      cases hnone
  · next hsome =>
      rw [hescape] at hsome
      cases hsome
      rfl

theorem readBasic_escapeLine (text rest : List Char) :
    readBasic (escapeLine text ++ '"' :: rest) = some (text, rest) := by
  induction text with
  | nil =>
      rw [escapeLine, List.flatMap_nil, List.nil_append, readBasic]
  | cons char text ih =>
      rw [escapeLine, List.flatMap_cons, List.append_assoc]
      cases hescaped : escaped? char with
      | none =>
          rw [Option.getD_none, List.singleton_append,
            readBasic_cons (isBasicChar_of_escaped? hescaped)]
          exact congrArg (prepend char) ih
      | some escape =>
          obtain ⟨mark, rfl, hmark⟩ := exists_mark hescaped
          rw [Option.getD_some, List.cons_append,
            readBasic_escape (hmark _).1]
          exact congrArg (prepend char) ih

theorem isLiteralChar_of_not_isControl {char : Char}
    (hcontrol : isControl char = false) (hbreak : char ≠ '\n')
    (hapostrophe : char ≠ '\'') : isLiteralChar char = true := by
  rw [isLiteralChar, decide_eq_true_eq]
  rcases tab_or_printable hcontrol hbreak with htab | ⟨hprintable, hdelete⟩
  · exact Or.inl htab
  · exact Or.inr ⟨hprintable, hapostrophe, hdelete⟩

theorem readLiteral_append (text rest : List Char)
    (hcontrol : ∀ char ∈ text, isControl char = false)
    (hbreak : '\n' ∉ text) (hapostrophe : '\'' ∉ text) :
    readLiteral (text ++ '\'' :: rest) = some (text, rest) := by
  induction text with
  | nil => rfl
  | cons char text ih =>
      rw [List.forall_mem_cons] at hcontrol
      rw [List.mem_cons, not_or] at hbreak hapostrophe
      have hliteral := isLiteralChar_of_not_isControl hcontrol.1
        (Ne.symm hbreak.1) (Ne.symm hapostrophe.1)
      rw [List.cons_append, readLiteral, if_pos hliteral,
        ih hcontrol.2 hbreak.2 hapostrophe.2]
      · rfl
      · exact fun heq => hapostrophe.1 heq.symm

/-! ## Quotes in front of a text -/

/-- A quote in front of a text stands in front of no further two, as long as
the text does not start with one. -/
theorem not_prefix_of_head {quote : Char} {first : Char} {others : List Char}
    (hfirst : first ≠ quote) : ¬ [quote, quote] <+: first :: others :=
  fun hprefix => hfirst (List.cons_prefix_cons.mp hprefix).1.symm

theorem not_prefix_closing {quote : Char} {rest : List Char}
    (hrest : rest.head? ≠ some quote) :
    ¬ [quote, quote] <+: quote :: rest := by
  intro hprefix
  obtain ⟨later, rfl⟩ := (List.cons_prefix_cons.mp hprefix).2
  exact hrest rfl

/-- Puts some quotes in front of what was read. -/
def prependQuotes (quote : Char) (count : Nat)
    (read : Option (List Char × List Char)) :
    Option (List Char × List Char) :=
  read.map fun (content, rest) =>
    (List.replicate count quote ++ content, rest)

/-- A reader takes quotes one by one unless three of them stand together. -/
def TakesQuotes (quote : Char)
    (read : List Char → Option (List Char × List Char)) : Prop :=
  ∀ text, ¬ [quote, quote] <+: text →
    read (quote :: text) = prepend quote (read text)

theorem TakesQuotes.read_replicate_append {quote : Char}
    {read : List Char → Option (List Char × List Char)}
    (htakes : TakesQuotes quote read) {count : Nat} (hcount : count ≤ 2)
    {char : Char} (hchar : char ≠ quote) (text : List Char) :
    read (List.replicate count quote ++ char :: text) =
      prependQuotes quote count (read (char :: text)) := by
  have hone := htakes (char :: text) (not_prefix_of_head hchar)
  have htwo := htakes (quote :: char :: text)
    (not_prefix_closing (by simpa using hchar))
  match count, hcount with
  | 0, _ =>
      cases hread : read (char :: text) <;> simp [prependQuotes, hread]
  | 1, _ =>
      cases hread : read (char :: text) <;>
        simp [prependQuotes, hone, hread, prepend]
  | 2, _ =>
      cases hread : read (char :: text) <;>
        simp [prependQuotes, htwo, hone, hread, prepend]

theorem closingQuotes_replicate_append (quote : Char) {count : Nat}
    (hcount : count ≤ 2) {rest : List Char} (hrest : rest.head? ≠ some quote) :
    closingQuotes quote (List.replicate count quote ++ rest) =
      (List.replicate count quote, rest) := by
  match count, hcount with
  | 0, _ =>
    match rest with
    | [] => rfl
    | [first] =>
        have hfirst : first ≠ quote := by simpa using hrest
        simp [closingQuotes, hfirst]
    | first :: second :: others =>
        have hfirst : first ≠ quote := by simpa using hrest
        simp [closingQuotes, hfirst]
  | 1, _ =>
    match rest with
    | [] => simp [closingQuotes]
    | first :: others =>
        have hfirst : first ≠ quote := by simpa using hrest
        simp [closingQuotes, hfirst]
  | 2, _ => simp [closingQuotes]

/-! ## Strings on several lines -/

theorem takesQuotes_readBasicLines : TakesQuotes '"' readBasicLines := by
  intro text hfew
  rw [readBasicLines.eq_def]
  split
  · next hnil => cases hnil
  · next hcons =>
      obtain rfl := (List.cons.inj hcons).2
      exact absurd ⟨_, rfl⟩ hfew
  · next hcons => cases hcons
  · next hcons => cases hcons
  · next hcons =>
      obtain ⟨rfl, rfl⟩ := List.cons.inj hcons
      rw [if_pos (Or.inr (Or.inr rfl))]

theorem readBasicLines_cons {char : Char}
    (hplain : isBasicChar char = true ∨ char = '\n') (rest : List Char) :
    readBasicLines (char :: rest) = prepend char (readBasicLines rest) := by
  have hdiffers : char ≠ '"' ∧ char ≠ '\\' ∧ char ≠ '\r' := by
    rcases hplain with hbasic | rfl
    · obtain ⟨hquotation, hbackslash, _, hreturn⟩ := ne_of_isBasicChar hbasic
      exact ⟨hquotation, hbackslash, hreturn⟩
    · decide
  rw [readBasicLines.eq_def]
  split
  · next hnil => cases hnil
  · next hcons => exact absurd (List.cons.inj hcons).1 hdiffers.1
  · next hcons => exact absurd (List.cons.inj hcons).1 hdiffers.2.1
  · next hcons => exact absurd (List.cons.inj hcons).1 hdiffers.2.2
  · next hcons =>
      obtain ⟨rfl, rfl⟩ := List.cons.inj hcons
      rw [if_pos (hplain.imp_right Or.inl)]

theorem readBasicLines_escape {text rest : List Char} {char : Char}
    (hescape : escape? text = some (char, rest))
    (hline : continuation? text = none) :
    readBasicLines ('\\' :: text) = prepend char (readBasicLines rest) := by
  rw [readBasicLines]
  split
  · next hsome =>
      rw [hline] at hsome
      cases hsome
  · split
    · next hnone =>
        rw [hescape] at hnone
        cases hnone
    · next hsome =>
        rw [hescape] at hsome
        cases hsome
        rfl

/-- The closing quotes follow the last quotes of the text. -/
theorem replicate_append_quotes {count : Nat} (hcount : count ≤ 2)
    (quote : Char) (rest : List Char) :
    List.replicate count quote ++ (quote :: quote :: quote :: rest) =
      quote :: quote :: quote :: (List.replicate count quote ++ rest) := by
  match count, hcount with
  | 0, _ => rfl
  | 1, _ => rfl
  | 2, _ => rfl

theorem readBasicLines_escapeLines (text : List Char) {rest : List Char}
    (hrest : rest.head? ≠ some '"') {count : Nat} (hcount : count ≤ 2) :
    readBasicLines
        (List.replicate count '"' ++
          (escapeLines count text ++ (quotes ++ rest))) =
      some (List.replicate count '"' ++ text, rest) := by
  induction text generalizing count with
  | nil =>
      have hclosing :
          List.replicate count '"' ++
              (escapeLines count [] ++ (quotes ++ rest)) =
            '"' :: '"' :: '"' :: (List.replicate count '"' ++ rest) :=
        replicate_append_quotes hcount '"' rest
      rw [hclosing, readBasicLines,
        closingQuotes_replicate_append '"' hcount hrest, List.append_nil]
  | cons char text ih =>
      have hlater :
          readBasicLines (escapeLines 0 text ++ (quotes ++ rest)) =
            some (text, rest) :=
        ih (Nat.zero_le 2)
      -- Anything but a quotation mark ends the run of those before it.
      have hends {first : Char} (hfirst : first ≠ '"') (others : List Char)
          (hread : readBasicLines (first :: others) =
            prepend char (some (text, rest))) :
          readBasicLines (List.replicate count '"' ++ first :: others) =
            some (List.replicate count '"' ++ char :: text, rest) := by
        rw [takesQuotes_readBasicLines.read_replicate_append hcount hfirst,
          hread]
        rfl
      rw [escapeLines]
      split
      case isTrue hquotation =>
        subst hquotation
        split
        case isTrue hfew =>
          have hnext := ih (Nat.succ_le_of_lt hfew)
          rw [List.replicate_succ', List.append_assoc, List.append_assoc]
            at hnext
          exact hnext
        case isFalse hmany =>
          refine hends (by decide) _ ?_
          rw [← hlater]
          exact readBasicLines_escape rfl rfl
      case isFalse hquotation =>
        split
        case isTrue hbreak =>
          subst hbreak
          refine hends hquotation _ ?_
          rw [← hlater]
          exact readBasicLines_cons (Or.inr rfl) _
        case isFalse hbreak =>
          cases hescaped : escaped? char with
          | none =>
              refine hends hquotation _ ?_
              rw [← hlater]
              exact readBasicLines_cons
                (Or.inl (isBasicChar_of_escaped? hescaped)) _
          | some escape =>
              obtain ⟨mark, rfl, hmark⟩ := exists_mark hescaped
              rw [Option.getD_some, List.append_assoc ('\\' :: mark),
                List.cons_append]
              refine hends (by decide) _ ?_
              rw [← hlater]
              exact readBasicLines_escape (hmark _).1 (hmark _).2

theorem takesQuotes_readLiteralLines :
    TakesQuotes '\'' readLiteralLines := by
  intro text hfew
  rw [readLiteralLines.eq_def]
  split
  · next hnil => cases hnil
  · next hcons =>
      obtain rfl := (List.cons.inj hcons).2
      exact absurd ⟨_, rfl⟩ hfew
  · next hcons => cases hcons
  · next hcons =>
      obtain ⟨rfl, rfl⟩ := List.cons.inj hcons
      rw [if_pos (Or.inr (Or.inr rfl))]

theorem readLiteralLines_cons {char : Char}
    (hcontrol : isControl char = false) (hapostrophe : char ≠ '\'')
    (rest : List Char) :
    readLiteralLines (char :: rest) =
      prepend char (readLiteralLines rest) := by
  have hreturn : char ≠ '\r' := by
    rintro rfl
    revert hcontrol
    decide
  have hplain : isLiteralChar char = true ∨ char = '\n' ∨ char = '\'' := by
    by_cases hbreak : char = '\n'
    · exact Or.inr (Or.inl hbreak)
    · exact Or.inl (isLiteralChar_of_not_isControl hcontrol hbreak hapostrophe)
  rw [readLiteralLines.eq_def]
  split
  · next hnil => cases hnil
  · next hcons => exact absurd (List.cons.inj hcons).1 hapostrophe
  · next hcons => exact absurd (List.cons.inj hcons).1 hreturn
  · next hcons =>
      obtain ⟨rfl, rfl⟩ := List.cons.inj hcons
      rw [if_pos hplain]

/-- Behind some of them, a text holds no run of more than two quotes. -/
def FewQuotes (quote : Char) : (count : Nat) → List Char → Prop
  | count, [] => count ≤ 2
  | count, char :: rest =>
      if char = quote then FewQuotes quote (count + 1) rest
      else count ≤ 2 ∧ FewQuotes quote 0 rest

/-- The run that a text ends with and the longest one, one character on. -/
def extendRun (quote : Char) : Nat × Nat → Char → Nat × Nat :=
  fun (run, longest) next =>
    let run := if next = quote then run + 1 else 0
    (run, max longest run)

theorem le_foldl_extendRun (quote : Char) (text : List Char)
    (run longest : Nat) :
    longest ≤ (text.foldl (extendRun quote) (run, longest)).2 := by
  induction text generalizing run longest with
  | nil => exact Nat.le_refl _
  | cons char text ih => exact Nat.le_trans (Nat.le_max_left _ _) (ih _ _)

theorem fewQuotes_of_foldl {quote : Char} {text : List Char}
    {run longest : Nat} (hrun : run ≤ longest)
    (hlongest : (text.foldl (extendRun quote) (run, longest)).2 ≤ 2) :
    FewQuotes quote run text := by
  induction text generalizing run longest with
  | nil => exact Nat.le_trans hrun hlongest
  | cons char text ih =>
      have hlonger := Nat.le_trans
        (le_foldl_extendRun quote (char :: text) run longest) hlongest
      rw [List.foldl_cons, extendRun] at hlongest
      rw [FewQuotes]
      split
      case isTrue hquote =>
        rw [if_pos hquote] at hlongest
        exact ih (Nat.le_max_right _ _) hlongest
      case isFalse hquote =>
        rw [if_neg hquote] at hlongest
        exact ⟨Nat.le_trans hrun hlonger, ih (Nat.le_max_right _ _) hlongest⟩

theorem fewQuotes_of_longestRun {quote : Char} {text : List Char}
    (hlongest : longestRun quote text ≤ 2) : FewQuotes quote 0 text :=
  fewQuotes_of_foldl (Nat.le_refl 0) hlongest

theorem notMem_of_foldl {quote : Char} {text : List Char} {run longest : Nat}
    (hlongest : (text.foldl (extendRun quote) (run, longest)).2 = 0) :
    quote ∉ text := by
  induction text generalizing run longest with
  | nil => exact List.not_mem_nil
  | cons char text ih =>
      rw [List.foldl_cons] at hlongest
      have hfirst : char ≠ quote := by
        rintro rfl
        have hlonger := le_foldl_extendRun char text (run + 1)
          (max longest (run + 1))
        rw [extendRun, if_pos rfl] at hlongest
        rw [hlongest] at hlonger
        omega
      rw [List.mem_cons, not_or]
      exact ⟨Ne.symm hfirst, ih hlongest⟩

theorem readLiteralLines_append (text : List Char) {rest : List Char}
    (hrest : rest.head? ≠ some '\'')
    (hcontrol : ∀ char ∈ text, isControl char = false) {count : Nat}
    (hfew : FewQuotes '\'' count text) :
    readLiteralLines
        (List.replicate count '\'' ++ (text ++ (apostrophes ++ rest))) =
      some (List.replicate count '\'' ++ text, rest) := by
  induction text generalizing count with
  | nil =>
      have hclosing :
          List.replicate count '\'' ++ ([] ++ (apostrophes ++ rest)) =
            '\'' :: '\'' :: '\'' :: (List.replicate count '\'' ++ rest) :=
        replicate_append_quotes hfew '\'' rest
      rw [hclosing, readLiteralLines,
        closingQuotes_replicate_append '\'' hfew hrest, List.append_nil]
  | cons char text ih =>
      rw [List.forall_mem_cons] at hcontrol
      rw [FewQuotes] at hfew
      split at hfew
      case isTrue hapostrophe =>
        subst hapostrophe
        have hnext := ih hcontrol.2 hfew
        rw [List.replicate_succ', List.append_assoc, List.append_assoc]
          at hnext
        exact hnext
      case isFalse hapostrophe =>
        rw [List.cons_append,
          takesQuotes_readLiteralLines.read_replicate_append hfew.1
            hapostrophe,
          readLiteralLines_cons hcontrol.1 hapostrophe]
        have hlater := ih hcontrol.2 hfew.2
        rw [List.replicate_zero, List.nil_append, List.nil_append] at hlater
        rw [hlater]
        rfl

/-! ## All forms -/

theorem dropFirstBreak_append (text body : List Char)
    (hbody : '\n' ∉ text → lineBreak? body = none) :
    dropFirstBreak (firstBreak text ++ body) = body := by
  rw [firstBreak]
  split
  case isTrue hlines => rfl
  case isFalse hlines =>
    rw [List.nil_append, dropFirstBreak, hbody hlines]
    rfl

theorem lineBreak?_cons {char : Char} (hbreak : char ≠ '\n')
    (hreturn : char ≠ '\r') (rest : List Char) :
    lineBreak? (char :: rest) = none := by
  unfold lineBreak?
  split
  · next hcons => exact absurd (List.cons.inj hcons).1 hbreak
  · next hcons => exact absurd (List.cons.inj hcons).1 hreturn
  · rfl

theorem lineBreak?_escapeLines {text : List Char} (hlines : '\n' ∉ text)
    (rest : List Char) :
    lineBreak? (escapeLines 0 text ++ (quotes ++ rest)) = none := by
  cases text with
  | nil => rfl
  | cons char text =>
      rw [List.mem_cons, not_or] at hlines
      rw [escapeLines, if_neg (Ne.symm hlines.1)]
      split
      case isTrue hquotation => rfl
      case isFalse hquotation =>
        cases hescaped : escaped? char with
        | none =>
            have hbasic := isBasicChar_of_escaped? hescaped
            exact lineBreak?_cons (Ne.symm hlines.1)
              (ne_of_isBasicChar hbasic).2.2.2 _
        | some escape =>
            obtain ⟨mark, rfl, _⟩ := exists_mark hescaped
            rfl

theorem lineBreak?_literal {text : List Char} (hlines : '\n' ∉ text)
    (hcontrol : ∀ char ∈ text, isControl char = false) (rest : List Char) :
    lineBreak? (text ++ (apostrophes ++ rest)) = none := by
  cases text with
  | nil => rfl
  | cons char text =>
      have hreturn : char ≠ '\r' := by
        rintro rfl
        have hnone := hcontrol '\r' List.mem_cons_self
        revert hnone
        decide
      rw [List.mem_cons, not_or] at hlines
      exact lineBreak?_cons (Ne.symm hlines.1) hreturn _

theorem readString_basic {body : List Char} (hfew : ¬ ['"', '"'] <+: body) :
    readString ('"' :: body) = readBasic body := by
  unfold readString
  split
  · next hcons =>
      obtain rfl := (List.cons.inj hcons).2
      exact absurd ⟨_, rfl⟩ hfew
  · next hcons =>
      obtain rfl := (List.cons.inj hcons).2
      rfl
  · next hcons => cases hcons
  · next hcons => cases hcons
  · next _ hnone _ _ => exact absurd rfl (hnone body)

theorem readString_literal {body : List Char}
    (hfew : ¬ ['\'', '\''] <+: body) :
    readString ('\'' :: body) = readLiteral body := by
  unfold readString
  split
  · next hcons => cases hcons
  · next hcons => cases hcons
  · next hcons =>
      obtain rfl := (List.cons.inj hcons).2
      exact absurd ⟨_, rfl⟩ hfew
  · next hcons =>
      obtain rfl := (List.cons.inj hcons).2
      rfl
  · next hnone => exact absurd rfl (hnone body)

theorem readString_escapeLine (text : List Char) {rest : List Char}
    (hrest : rest.head? ≠ some '"') :
    readString ('"' :: (escapeLine text ++ '"' :: rest)) =
      some (text, rest) := by
  have hfew : ¬ ['"', '"'] <+: escapeLine text ++ '"' :: rest := by
    cases text with
    | nil => exact not_prefix_closing hrest
    | cons char text =>
        rw [escapeLine, List.flatMap_cons]
        cases hescaped : escaped? char with
        | none =>
            have hbasic := isBasicChar_of_escaped? hescaped
            exact not_prefix_of_head (ne_of_isBasicChar hbasic).1
        | some escape =>
            obtain ⟨mark, rfl, _⟩ := exists_mark hescaped
            exact not_prefix_of_head (by decide)
  rw [readString_basic hfew, readBasic_escapeLine]

theorem readString_quotes (body : List Char) :
    readString (quotes ++ body) = readBasicLines (dropFirstBreak body) := rfl

theorem readString_apostrophes (body : List Char) :
    readString (apostrophes ++ body) =
      readLiteralLines (dropFirstBreak body) := rfl

theorem readString_escapeLines (text : List Char) {rest : List Char}
    (hrest : rest.head? ≠ some '"') :
    readString
        (quotes ++ (firstBreak text ++
          (escapeLines 0 text ++ (quotes ++ rest)))) =
      some (text, rest) := by
  have hbody : dropFirstBreak
      (firstBreak text ++ (escapeLines 0 text ++ (quotes ++ rest))) =
        escapeLines 0 text ++ (quotes ++ rest) :=
    dropFirstBreak_append text _ fun hlines =>
      lineBreak?_escapeLines hlines rest
  rw [readString_quotes, hbody]
  exact readBasicLines_escapeLines text hrest (Nat.zero_le 2)

theorem readString_text {text : List Char} {rest : List Char}
    (hrest : rest.head? ≠ some '\'')
    (hcontrol : ∀ char ∈ text, isControl char = false)
    (hbreak : '\n' ∉ text) (hapostrophe : '\'' ∉ text) :
    readString ('\'' :: (text ++ '\'' :: rest)) = some (text, rest) := by
  have hfew : ¬ ['\'', '\''] <+: text ++ '\'' :: rest := by
    cases text with
    | nil => exact not_prefix_closing hrest
    | cons char text =>
        rw [List.mem_cons, not_or] at hapostrophe
        exact not_prefix_of_head (Ne.symm hapostrophe.1)
  rw [readString_literal hfew,
    readLiteral_append text rest hcontrol hbreak hapostrophe]

theorem readString_textLines {text : List Char} {rest : List Char}
    (hrest : rest.head? ≠ some '\'')
    (hcontrol : ∀ char ∈ text, isControl char = false)
    (hfew : FewQuotes '\'' 0 text) :
    readString
        (apostrophes ++ (firstBreak text ++ (text ++ (apostrophes ++ rest)))) =
      some (text, rest) := by
  have hbody : dropFirstBreak
      (firstBreak text ++ (text ++ (apostrophes ++ rest))) =
        text ++ (apostrophes ++ rest) :=
    dropFirstBreak_append text _ fun hlines =>
      lineBreak?_literal hlines hcontrol rest
  rw [readString_apostrophes, hbody]
  exact readLiteralLines_append text hrest hcontrol hfew

/-- Every form starts with a quote. -/
theorem exists_head_printString (text : List Char) :
    ∃ quote others, printString text = quote :: others ∧
      (quote = '"' ∨ quote = '\'') := by
  simp only [printString]
  split
  · exact ⟨_, _, rfl, Or.inl rfl⟩
  split
  · exact ⟨_, _, rfl, Or.inr rfl⟩
  split
  · exact ⟨_, _, rfl, Or.inl rfl⟩
  split
  · exact ⟨_, _, rfl, Or.inr rfl⟩
  split
  · exact ⟨_, _, rfl, Or.inl rfl⟩
  · exact ⟨_, _, rfl, Or.inl rfl⟩

/-- A text is read back from the form it is printed in. -/
theorem readString_printString (text : List Char) {rest : List Char}
    (hquotation : rest.head? ≠ some '"')
    (hapostrophe : rest.head? ≠ some '\'') :
    readString (printString text ++ rest) = some (text, rest) := by
  have hprintable (hcontrol : ¬ text.any isControl = true) :
      ∀ char ∈ text, isControl char = false := by
    intro char hmem
    exact Bool.eq_false_iff.mpr fun htrue =>
      hcontrol (List.any_eq_true.mpr ⟨char, hmem, htrue⟩)
  simp only [printString]
  split
  case isTrue hplain =>
    have hread := readString_escapeLine text hquotation
    simpa using hread
  case isFalse =>
    split
    case isTrue hliteral =>
      obtain ⟨hcontrol, hnone, hlines⟩ := hliteral
      have hread := readString_text hapostrophe (hprintable hcontrol) hlines
        (notMem_of_foldl hnone)
      simpa using hread
    case isFalse =>
      have hread := readString_escapeLines text hquotation
      split
      case isTrue => simpa using hread
      case isFalse =>
        split
        case isTrue hliteral =>
          obtain ⟨hcontrol, hfew⟩ := hliteral
          have hread := readString_textLines hapostrophe
            (hprintable hcontrol) (fewQuotes_of_longestRun hfew)
          simpa using hread
        case isFalse =>
          split
          case isTrue => simpa using hread
          case isFalse =>
            have hread := readString_escapeLine text hquotation
            simpa using hread

end Pinhole.Toml
