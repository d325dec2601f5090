import Mathlib.Data.List.TakeWhile
import Pinhole.Text.Fields
import Pinhole.Text.Unicode

/-!
# Cutting texts

A text is cut at every separator, so no field holds one; and it is stripped of
the white space around it, so what is left neither starts nor ends with any.
Both are determined by this.
-/

namespace Pinhole

/-! ## Fields -/

theorem fields_of_notMem {separator : Char} {text : List Char}
    (hnotMem : separator ∉ text) : fields separator text = [text] := by
  induction text with
  | nil => rfl
  | cons char text ih =>
      rw [List.mem_cons, not_or] at hnotMem
      rw [fields, if_neg (Ne.symm hnotMem.1), ih hnotMem.2]

theorem fields_append {separator : Char} {field : List Char}
    (hnotMem : separator ∉ field) (rest : List Char) :
    fields separator (field ++ separator :: rest) =
      field :: fields separator rest := by
  induction field with
  | nil => exact if_pos rfl
  | cons char field ih =>
      rw [List.mem_cons, not_or] at hnotMem
      rw [List.cons_append, fields, if_neg (Ne.symm hnotMem.1), ih hnotMem.2]

theorem fields_eq_cons_iff {separator : Char} {text field : List Char}
    {others : List (List Char)} :
    fields separator text = field :: others ↔
      separator ∉ field ∧
        ((others = [] ∧ text = field) ∨
          ∃ rest, text = field ++ separator :: rest ∧
            fields separator rest = others) := by
  constructor
  · intro hfields
    by_cases hmem : separator ∈ text
    · obtain ⟨first, rest, rfl, hnotMem⟩ := List.eq_append_cons_of_mem hmem
      rw [fields_append hnotMem, List.cons.injEq] at hfields
      obtain ⟨rfl, hothers⟩ := hfields
      exact ⟨hnotMem, .inr ⟨rest, rfl, hothers⟩⟩
    · rw [fields_of_notMem hmem, List.cons.injEq] at hfields
      obtain ⟨rfl, rfl⟩ := hfields
      exact ⟨hmem, .inl ⟨rfl, rfl⟩⟩
  · rintro ⟨hnotMem, ⟨rfl, rfl⟩ | ⟨rest, rfl, rfl⟩⟩
    · exact fields_of_notMem hnotMem
    · exact fields_append hnotMem rest

theorem fields_eq_singleton_iff {separator : Char} {text field : List Char} :
    fields separator text = [field] ↔ separator ∉ field ∧ text = field := by
  rw [fields_eq_cons_iff]
  refine and_congr_right fun _ => ?_
  constructor
  · rintro (⟨_, htext⟩ | ⟨rest, _, hnone⟩)
    · exact htext
    · exact absurd hnone (fields_ne_nil separator rest)
  · exact fun htext => .inl ⟨rfl, htext⟩

theorem fields_eq_pair_iff {separator : Char}
    {text first second : List Char} :
    fields separator text = [first, second] ↔
      separator ∉ first ∧ separator ∉ second ∧
        text = first ++ separator :: second := by
  rw [fields_eq_cons_iff]
  refine and_congr_right fun _ => ?_
  constructor
  · rintro (⟨hnone, _⟩ | ⟨rest, rfl, hrest⟩)
    · cases hnone
    · obtain ⟨hnotMem, rfl⟩ := fields_eq_singleton_iff.mp hrest
      exact ⟨hnotMem, rfl⟩
  · rintro ⟨hnotMem, rfl⟩
    exact .inr ⟨second, rfl, fields_of_notMem hnotMem⟩

/-! ## Stripping -/

theorem takeWhile_append_of_all {α : Type} {p : α → Bool} {items : List α}
    (hall : ∀ item ∈ items, p item = true) {rest : List α}
    (hrest : ∀ item, rest.head? = some item → p item = false) :
    (items ++ rest).takeWhile p = items ∧
      (items ++ rest).dropWhile p = rest := by
  have hstop : rest.takeWhile p = [] ∧ rest.dropWhile p = rest := by
    cases rest with
    | nil => exact ⟨rfl, rfl⟩
    | cons first others =>
        have hfirst := hrest first rfl
        simp [hfirst]
  rw [List.takeWhile_append_of_pos hall, List.dropWhile_append_of_pos hall,
    hstop.1, hstop.2, List.append_nil]
  exact ⟨rfl, rfl⟩

namespace Unicode

/-- What is left of a text without the white space around it. -/
def Stripped (text core : List Char) : Prop :=
  ∃ before after, text = before ++ core ++ after ∧
    (∀ char ∈ before ++ after, isWhiteSpace char = true) ∧
    (∀ char, core.head? = some char → isWhiteSpace char = false) ∧
    ∀ char, core.getLast? = some char → isWhiteSpace char = false

theorem stripped_trim (text : List Char) : Stripped text (trim text) := by
  generalize hmiddle : text.dropWhile isWhiteSpace = middle
  have hfront : text.takeWhile isWhiteSpace ++ middle = text := by
    rw [← hmiddle, List.takeWhile_append_dropWhile]
  have hback : trim text ++ (middle.reverse.takeWhile isWhiteSpace).reverse =
      middle := by
    rw [trim, hmiddle, ← List.reverse_append, List.takeWhile_append_dropWhile,
      List.reverse_reverse]
  refine ⟨text.takeWhile isWhiteSpace,
    (middle.reverse.takeWhile isWhiteSpace).reverse, ?_, ?_, ?_, ?_⟩
  · rw [List.append_assoc, hback, hfront]
  · intro char hmem
    rcases List.mem_append.mp hmem with hmem | hmem
    · exact List.mem_takeWhile_imp hmem
    · exact List.mem_takeWhile_imp (List.mem_reverse.mp hmem)
  · intro char hhead
    have hsome : middle.head? = some char := by
      rw [← hback, List.head?_append, hhead]
      rfl
    have hnot := List.head?_dropWhile_not isWhiteSpace text
    rw [hmiddle, hsome] at hnot
    simpa using hnot
  · intro char hlast
    rw [trim, hmiddle, List.getLast?_reverse] at hlast
    have hnot := List.head?_dropWhile_not isWhiteSpace middle.reverse
    rw [hlast] at hnot
    simpa using hnot

theorem Stripped.trim_eq {text core : List Char}
    (hstripped : Stripped text core) : trim text = core := by
  obtain ⟨before, after, rfl, hwhite, hhead, hlast⟩ := hstripped
  rw [List.forall_mem_append] at hwhite
  cases core with
  | nil =>
      have hnone : (before ++ [] ++ after).dropWhile isWhiteSpace = [] := by
        rw [List.append_nil, List.dropWhile_eq_nil_iff, List.forall_mem_append]
        exact hwhite
      rw [trim, hnone]
      rfl
  | cons first core =>
      have hfront : (before ++ (first :: core ++ after)).dropWhile
          isWhiteSpace = first :: core ++ after := by
        refine (takeWhile_append_of_all hwhite.1 ?_).2
        exact hhead
      have hback : (after.reverse ++ (first :: core).reverse).dropWhile
          isWhiteSpace = (first :: core).reverse := by
        refine (takeWhile_append_of_all ?_ ?_).2
        · simpa using hwhite.2
        · rwa [List.head?_reverse]
      rw [trim, List.append_assoc, hfront, List.reverse_append, hback,
        List.reverse_reverse]

theorem stripped_iff {text core : List Char} :
    Stripped text core ↔ trim text = core :=
  ⟨Stripped.trim_eq, fun htrim => htrim ▸ stripped_trim text⟩

end Unicode

end Pinhole
