import Pinhole.Proofs.Toml.Pages

/-!
# Printed documents are read back

A printed document is a page whose tables are parted by empty lines.  If no name
is given twice, the tables that come into being are the ones that were printed.
-/

namespace Pinhole.Toml

/-- Whether all numbers of a table can be read. -/
def AllReadable (fields : List (String × Scalar)) : Prop :=
  ∀ field ∈ fields, field.2.IsReadable

/-! ## Printed tables as a page -/

def printedLine (field : String × Scalar) : Line :=
  ⟨[], field.1, field.2.print, field.2.value⟩

def printedBlock (lead : List Char)
    (table : String × List (String × Scalar)) : Block :=
  ⟨lead, table.1, table.2.map printedLine⟩

/-- An empty line stands in front of every table but the first. -/
def printedPage : List (String × List (String × Scalar)) → Page
  | [] => ⟨[], []⟩
  | table :: tables =>
      ⟨[], printedBlock [] table :: tables.map (printedBlock ['\n'])⟩

theorem isTrivia_nil : IsTrivia [] := by
  simp [IsTrivia]

theorem isTrivia_lineBreak : IsTrivia ['\n'] := by
  intro rest
  rw [List.singleton_append, dropTrivia]

theorem isReadable_printedBlock {lead : List Char} (hlead : IsTrivia lead)
    {table : String × List (String × Scalar)}
    (hreadable : AllReadable table.2) :
    (printedBlock lead table).IsReadable := by
  refine ⟨hlead, ?_⟩
  simp only [printedBlock, List.forall_mem_map]
  intro field hfield
  exact ⟨isTrivia_nil, readValue_print field.2 (hreadable field hfield) _⟩

theorem isReadable_printedPage
    {tables : List (String × List (String × Scalar))}
    (hreadable : ∀ table ∈ tables, AllReadable table.2) :
    (printedPage tables).IsReadable := by
  cases tables with
  | nil => exact ⟨by simp [printedPage], by simp [printedPage]⟩
  | cons table tables =>
      rw [List.forall_mem_cons] at hreadable
      refine ⟨by simp [printedPage], ?_⟩
      simp only [printedPage, List.forall_mem_cons, List.forall_mem_map]
      exact ⟨isReadable_printedBlock isTrivia_nil hreadable.1,
        fun other hother =>
          isReadable_printedBlock isTrivia_lineBreak
            (hreadable.2 other hother)⟩

theorem text_printedBlock (lead : List Char)
    (table : String × List (String × Scalar)) :
    (printedBlock lead table).text = lead ++ printTable table := by
  have hline (field : String × Scalar) :
      (printedLine field).text = printField field := by
    simp [Line.text, printedLine, printField]
  simp [Block.text, printedBlock, printTable, List.flatMap_map, hline]

theorem text_printedPage (tables : List (String × List (String × Scalar))) :
    (printedPage tables).text =
      ((tables.map printTable).intersperse ['\n']).flatten := by
  cases tables with
  | nil => simp [printedPage, Page.text]
  | cons table tables =>
      simp only [printedPage, Page.text, List.flatMap_nil, List.nil_append,
        List.flatMap_cons, text_printedBlock, List.flatMap_map]
      induction tables generalizing table with
      | nil => simp
      | cons next tables ih =>
          rw [List.flatMap_cons, List.append_assoc, List.map_cons,
            List.map_cons, List.intersperse_cons_cons, List.flatten_cons,
            List.flatten_cons]
          have hrest := ih next
          rw [List.map_cons] at hrest
          rw [hrest]

/-! ## Documents -/

/-- What is read of a printed table. -/
def tableValue (table : String × List (String × Scalar)) : String × Value :=
  (table.1, .table (table.2.map fun field => (field.1, field.2.value)))

theorem entries_printedPage
    (tables : List (String × List (String × Scalar))) :
    (printedPage tables).sheet.entries = tables.map tableValue := by
  cases tables with
  | nil => simp [printedPage, Page.sheet, Sheet.entries]
  | cons table tables =>
      simp [printedPage, Page.sheet, Sheet.entries, Block.table, printedBlock,
        Line.field, printedLine, tableValue, Function.comp_def]

theorem keysDiffer_printedPage
    {tables : List (String × List (String × Scalar))}
    (hdiffer : KeysDiffer tables)
    (hfields : ∀ table ∈ tables, KeysDiffer table.2) :
    (printedPage tables).sheet.KeysDiffer := by
  have hinner (lead : List Char) (table : String × List (String × Scalar))
      (htable : KeysDiffer table.2) :
      KeysDiffer (printedBlock lead table).table.2 := by
    simpa [KeysDiffer, Block.table, printedBlock, Line.field, printedLine,
      Function.comp_def] using htable
  refine ⟨?_, ?_⟩
  · rw [entries_printedPage]
    exact hdiffer.map tableValue fun _ => rfl
  · cases tables with
    | nil => simp [printedPage, Page.sheet]
    | cons table tables =>
        rw [List.forall_mem_cons] at hfields
        simp only [printedPage, Page.sheet, List.map_cons, List.map_map,
          List.forall_mem_cons, List.forall_mem_map]
        exact ⟨hinner _ _ hfields.1,
          fun other hother => hinner _ _ (hfields.2 other hother)⟩

theorem parse?_print (tables : List (String × List (String × Scalar)))
    (hreadable : ∀ table ∈ tables, AllReadable table.2)
    (hdiffer : KeysDiffer tables)
    (hfields : ∀ table ∈ tables, KeysDiffer table.2) :
    parse? (print tables) = some (tables.map tableValue) := by
  rw [print, ← text_printedPage, ← entries_printedPage]
  exact parse?_page (isReadable_printedPage hreadable)
    (keysDiffer_printedPage hdiffer hfields)

end Pinhole.Toml
