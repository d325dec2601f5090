import Pinhole.Proofs.Toml.Entries
import Pinhole.Toml.Document

/-!
# Keys and tables in any order

A sheet is a document of plain keys and, behind them, tables that have a header
each.  If no key is given twice, the document that its statements build holds
just these keys and tables, in the order in which they are given.
-/

namespace Pinhole.Toml

structure Sheet where
  fields : List (String × Value)
  tables : List (String × List (String × Value))

def assignment (field : String × Value) : Statement :=
  .assign [field.1] field.2

/-- The header of a table and its keys. -/
def tableStatements (table : String × List (String × Value)) :
    List Statement :=
  .table [table.1] :: table.2.map assignment

def fieldEntry (field : String × Value) : String × Node :=
  (field.1, .value field.2)

def tableEntry (table : String × List (String × Value)) : String × Node :=
  (table.1, .table .header (table.2.map fieldEntry))

namespace Sheet

def statements (sheet : Sheet) : List Statement :=
  sheet.fields.map assignment ++ sheet.tables.flatMap tableStatements

def entries (sheet : Sheet) : List (String × Value) :=
  sheet.fields ++ sheet.tables.map fun table => (table.1, .table table.2)

/-- No key is given twice, in the document or in one of its tables. -/
structure KeysDiffer (sheet : Sheet) : Prop where
  outer : Toml.KeysDiffer sheet.entries
  inner : ∀ table ∈ sheet.tables, Toml.KeysDiffer table.2

end Sheet

/-! ## Building the document -/

theorem assign_new {entries : Entries} {field : String × Value}
    (hkey : entries.lookup field.1 = none) :
    Entries.assign entries [field.1] field.2 =
      some (entries ++ [fieldEntry field]) := by
  rw [Entries.assign, hkey]
  rfl

/-- Keys that differ are added one after another, wherever the table that they
are added to stands. -/
theorem add?_assignments {stage : Entries → Draft}
    (hadd : ∀ entries field, entries.lookup field.1 = none →
      (stage entries).add? (assignment field) =
        some (stage (entries ++ [fieldEntry field])))
    (fields : List (String × Value)) {entries : Entries}
    (hdiffer : KeysDiffer (entries ++ fields.map fieldEntry)) :
    (fields.map assignment).foldlM Draft.add? (stage entries) =
      some (stage (entries ++ fields.map fieldEntry)) := by
  induction fields generalizing entries with
  | nil => simp
  | cons field fields ih =>
      have hfirst := hadd entries field hdiffer.lookup_eq_none
      -- The keys given so far and those to come stay the same list.
      rw [List.map_cons, List.append_cons] at hdiffer
      simp [hfirst, ih hdiffer]

theorem add?_outer (entries : Entries) (field : String × Value)
    (hkey : entries.lookup field.1 = none) :
    Draft.add? ⟨entries, []⟩ (assignment field) =
      some ⟨entries ++ [fieldEntry field], []⟩ := by
  simp [Draft.add?, assignment, Entries.descend, assign_new hkey]

section Building

variable {before : Entries} {name : String}

theorem add?_table (hname : before.lookup name = none) (current : Path) :
    Draft.add? ⟨before, current⟩ (.table [name]) =
      some ⟨before ++ [(name, .table .header [])], [name]⟩ := by
  have hopen : Entries.openTable name before =
      some (before ++ [(name, .table .header [])]) := by
    rw [Entries.openTable, hname]
  simp [Draft.add?, Entries.descend, hopen]

/-- A key is added to the table that was opened last. -/
theorem add?_inner (hname : before.lookup name = none) (inner : Entries)
    (field : String × Value) (hkey : inner.lookup field.1 = none) :
    Draft.add? ⟨before ++ [(name, .table .header inner)], [name]⟩
        (assignment field) =
      some ⟨before ++ [(name, .table .header (inner ++ [fieldEntry field]))],
        [name]⟩ := by
  simp only [Draft.add?, assignment, Entries.descend, lookup_last hname,
    assign_new hkey, bind, Option.bind_some, Entries.replace_last hname]
  rfl

theorem add?_tables (tables : List (String × List (String × Value)))
    (hdiffer : KeysDiffer (before ++ tables.map tableEntry))
    (hfields : ∀ table ∈ tables, KeysDiffer table.2) (current : Path) :
    ∃ last, (tables.flatMap tableStatements).foldlM Draft.add?
        ⟨before, current⟩ =
      some ⟨before ++ tables.map tableEntry, last⟩ := by
  induction tables generalizing before current with
  | nil => exact ⟨current, by simp⟩
  | cons table tables ih =>
      rw [List.forall_mem_cons] at hfields
      have hname : before.lookup table.1 = none := hdiffer.lookup_eq_none
      have hinner : KeysDiffer ([] ++ table.2.map fieldEntry) :=
        hfields.1.map fieldEntry fun _ => rfl
      rw [List.map_cons, List.append_cons] at hdiffer
      obtain ⟨last, hrest⟩ := ih hdiffer hfields.2 [table.1]
      have htable :
          (tableStatements table).foldlM Draft.add? ⟨before, current⟩ =
            some ⟨before ++ [tableEntry table], [table.1]⟩ := by
        rw [tableStatements, List.foldlM_cons, add?_table hname]
        exact add?_assignments (add?_inner hname) table.2 hinner
      rw [← List.append_cons] at hrest
      refine ⟨last, ?_⟩
      rw [List.flatMap_cons, List.foldlM_append, htable]
      exact hrest

end Building

/-! ## Sheets -/

theorem toValue_tableEntry (table : String × List (String × Value)) :
    (tableEntry table).2.toValue = .table table.2 := by
  simp [tableEntry, fieldEntry, Node.toValue, entriesToValues_eq_map,
    Function.comp_def]

theorem tableOf?_statements {sheet : Sheet} (hdiffer : sheet.KeysDiffer) :
    tableOf? sheet.statements = some sheet.entries := by
  have hkeys : KeysDiffer
      (sheet.fields.map fieldEntry ++ sheet.tables.map tableEntry) := by
    have houter := hdiffer.outer
    simp only [KeysDiffer, Sheet.entries, List.map_append,
      List.map_map] at houter ⊢
    exact houter
  have hfields : KeysDiffer ([] ++ sheet.fields.map fieldEntry) := by
    simp only [KeysDiffer, List.map_append] at hkeys ⊢
    exact (List.nodup_append.mp hkeys).1
  have houter := add?_assignments add?_outer sheet.fields hfields
  obtain ⟨last, htables⟩ := add?_tables sheet.tables hkeys hdiffer.inner []
  rw [List.nil_append] at houter
  simp only [tableOf?, Sheet.statements, List.foldlM_append, houter, htables,
    bind, Option.bind_some, entriesToValues_eq_map, List.map_append,
    List.map_map, Sheet.entries]
  congr 2
  · simp [fieldEntry, Node.toValue, Function.comp_def]
  · apply List.map_congr_left
    intro table _
    exact Prod.ext rfl (toValue_tableEntry table)

/-- However its statements are written, a sheet is read as the document of its
keys and tables. -/
theorem parse?_of_statements {text : String} {sheet : Sheet}
    (hread : readStatements (dropByteOrderMark text.toList) =
      some sheet.statements)
    (hdiffer : sheet.KeysDiffer) : parse? text = some sheet.entries := by
  rw [parse?, hread]
  exact tableOf?_statements hdiffer

end Pinhole.Toml
