/-!
# Separated fields

A text cut at every occurrence of a separator.  A text without a separator is
one field, and there is always one field more than there are separators.
-/

namespace Pinhole

/-- The fields between the separators, empty ones included. -/
def fields (separator : Char) : List Char → List (List Char)
  | [] => [[]]
  | char :: rest =>
      if char = separator then [] :: fields separator rest
      else
        match fields separator rest with
        | [] => [[char]]
        | field :: others => (char :: field) :: others

/-- What stands before and after the last separator. -/
def splitLast? (separator : Char) (text : List Char) :
    Option (List Char × List Char) :=
  let tail := text.reverse.takeWhile (· != separator)
  match text.reverse.dropWhile (· != separator) with
  | [] => none
  | _ :: head => some (head.reverse, tail.reverse)

theorem fields_ne_nil (separator : Char) (text : List Char) :
    fields separator text ≠ [] := by
  cases text with
  | nil => simp [fields]
  | cons char rest =>
      unfold fields
      split
      · simp
      · split <;> simp

theorem length_fields (separator : Char) (text : List Char) :
    (fields separator text).length = text.count separator + 1 := by
  induction text with
  | nil => simp [fields]
  | cons char rest ih =>
      by_cases hchar : char = separator
      · simp [fields, hchar, ih]
      · unfold fields
        rw [if_neg hchar]
        cases hrest : fields separator rest with
        | nil => exact absurd hrest (fields_ne_nil separator rest)
        | cons field others =>
            rw [hrest] at ih
            simpa [hchar] using ih

end Pinhole
