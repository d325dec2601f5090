import Pinhole.Proofs.Toml.Fields
import Pinhole.Proofs.Toml.Sheets

/-!
# Pages

A page is a text of lines that give keys their values and of tables, each with
a header on a line of its own.  Blank lines and comments may stand in front of
every line, and a value may be written in any form that is read.  A page is read
as the sheet of its keys and tables.
-/

namespace Pinhole.Toml

/-- A key and its value, as written behind some blank lines and comments. -/
structure Line where
  lead : List Char
  key : String
  written : List Char
  value : Value

/-- A table whose header stands behind some blank lines and comments. -/
structure Block where
  lead : List Char
  name : String
  lines : List Line

structure Page where
  lines : List Line
  blocks : List Block

def Line.text (line : Line) : List Char :=
  line.lead ++ printKey line.key ++ [' ', '=', ' '] ++ line.written ++ ['\n']

def Line.field (line : Line) : String × Value :=
  (line.key, line.value)

def Block.text (block : Block) : List Char :=
  block.lead ++ ['['] ++ printKey block.name ++ [']', '\n'] ++
    block.lines.flatMap Line.text

def Block.table (block : Block) : String × List (String × Value) :=
  (block.name, block.lines.map Line.field)

def Page.text (page : Page) : List Char :=
  page.lines.flatMap Line.text ++ page.blocks.flatMap Block.text

def Page.sheet (page : Page) : Sheet :=
  ⟨page.lines.map Line.field, page.blocks.map Block.table⟩

/-- Blank lines and comments only. -/
def IsTrivia (lead : List Char) : Prop :=
  ∀ rest, dropTrivia (lead ++ rest) = dropTrivia rest

/-- What is written on a line is read as its value. -/
structure Line.IsReadable (line : Line) : Prop where
  trivia : IsTrivia line.lead
  value : ∀ rest, readValue (depthLimit - 1) (line.written ++ '\n' :: rest) =
    some (line.value, '\n' :: rest)

structure Block.IsReadable (block : Block) : Prop where
  trivia : IsTrivia block.lead
  lines : ∀ line ∈ block.lines, line.IsReadable

structure Page.IsReadable (page : Page) : Prop where
  lines : ∀ line ∈ page.lines, line.IsReadable
  blocks : ∀ block ∈ page.blocks, block.IsReadable

/-! ## Lines -/

theorem dropTrivia_cons {first : Char} (hblank : isBlank first = false)
    (hmark : first ≠ '\n' ∧ first ≠ '\r' ∧ first ≠ '#') (others : List Char) :
    dropTrivia (first :: others) = first :: others := by
  rw [dropTrivia.eq_def]
  split
  · next hcons => cases hcons
  · next hcons => exact absurd (List.cons.inj hcons).1 hmark.1
  · next hcons => exact absurd (List.cons.inj hcons).1 hmark.2.1
  · next hcons => exact absurd (List.cons.inj hcons).1 hmark.2.2
  · next hcons =>
      obtain ⟨rfl, rfl⟩ := List.cons.inj hcons
      rw [if_neg (by simp [hblank])]

theorem readStatements_nil : readStatements [] = some [] := by
  rw [readStatements, dropTrivia]

/-- A statement is read with the line it stands on. -/
theorem readStatements_line {text others rest : List Char} {first : Char}
    {statement : Statement} (htext : dropTrivia text = first :: others)
    (hread :
      readStatement (first :: others) = some (statement, '\n' :: rest))
    (hshort : rest.length < text.length) :
    readStatements text = (readStatements rest).map (statement :: ·) := by
  have hend : lineEnd? ('\n' :: rest) = some rest := rfl
  rw [readStatements.eq_def, htext]
  simp only [hread, hend, dif_pos hshort]

theorem dropTrivia_printKey (key : String) (rest : List Char) :
    ∃ first others, printKey key ++ rest = first :: others ∧
      dropTrivia (first :: others) = first :: others := by
  obtain ⟨first, others, hprint, hfirst⟩ := exists_head_printKey key
  have hmark : first ≠ '\n' ∧ first ≠ '\r' ∧ first ≠ '#' := by
    rcases hfirst with hbare | rfl
    · refine ⟨?_, ?_, ?_⟩ <;> rintro rfl <;> exact absurd hbare (by decide)
    · decide
  refine ⟨first, others ++ rest, by simp [hprint], ?_⟩
  exact dropTrivia_cons (isBlank_of_head hfirst) hmark _

theorem readStatements_lineText {line : Line} (hreadable : line.IsReadable)
    (rest : List Char) :
    readStatements (line.text ++ rest) =
      (readStatements rest).map (assignment line.field :: ·) := by
  have htext : line.text ++ rest = line.lead ++ (printKey line.key ++
      ([' ', '=', ' '] ++ (line.written ++ '\n' :: rest))) := by
    simp [Line.text]
  have hread := readStatement_assignment line.key (hreadable.value rest)
  obtain ⟨first, others, hcons, hstart⟩ := dropTrivia_printKey line.key
    ([' ', '=', ' '] ++ (line.written ++ '\n' :: rest))
  have hshort : rest.length < (line.text ++ rest).length := by
    simp [Line.text]
    omega
  rw [htext, hcons] at hshort ⊢
  rw [hcons] at hread
  exact readStatements_line ((hreadable.trivia _).trans hstart) hread hshort

theorem readStatements_lines {lines : List Line}
    (hreadable : ∀ line ∈ lines, line.IsReadable) (rest : List Char) :
    readStatements (lines.flatMap Line.text ++ rest) =
      (readStatements rest).map ((lines.map Line.field).map assignment ++ ·) := by
  induction lines with
  | nil => simp
  | cons line lines ih =>
      rw [List.forall_mem_cons] at hreadable
      rw [List.flatMap_cons, List.append_assoc,
        readStatements_lineText hreadable.1, ih hreadable.2, Option.map_map]
      rfl

/-! ## Tables -/

theorem readStatements_block {block : Block} (hreadable : block.IsReadable)
    (rest : List Char) :
    readStatements (block.text ++ rest) =
      (readStatements rest).map (tableStatements block.table ++ ·) := by
  have htext : block.text ++ rest =
      block.lead ++ '[' :: (printKey block.name ++
        ']' :: '\n' :: (block.lines.flatMap Line.text ++ rest)) := by
    simp [Block.text]
  have hread := readStatement_header block.name
    ('\n' :: (block.lines.flatMap Line.text ++ rest))
  have hstart := dropTrivia_cons (by decide : isBlank '[' = false)
    (by decide) (printKey block.name ++
      ']' :: '\n' :: (block.lines.flatMap Line.text ++ rest))
  have hshort : (block.lines.flatMap Line.text ++ rest).length <
      (block.text ++ rest).length := by
    simp [Block.text]
    omega
  rw [htext] at hshort ⊢
  rw [readStatements_line ((hreadable.trivia _).trans hstart) hread hshort,
    readStatements_lines hreadable.lines, Option.map_map]
  rfl

theorem readStatements_blocks {blocks : List Block}
    (hreadable : ∀ block ∈ blocks, block.IsReadable) :
    readStatements (blocks.flatMap Block.text) =
      some ((blocks.map Block.table).flatMap tableStatements) := by
  induction blocks with
  | nil => simp [readStatements_nil]
  | cons block blocks ih =>
      rw [List.forall_mem_cons] at hreadable
      rw [List.flatMap_cons, readStatements_block hreadable.1,
        ih hreadable.2]
      simp

/-! ## Pages -/

theorem readStatements_page {page : Page} (hreadable : page.IsReadable) :
    readStatements page.text = some page.sheet.statements := by
  rw [Page.text, readStatements_lines hreadable.lines,
    readStatements_blocks hreadable.blocks]
  rfl

/-- A text that is read does not start with a byte order mark. -/
theorem dropByteOrderMark_of_readStatements {text : List Char}
    {statements : List Statement}
    (hread : readStatements text = some statements) :
    dropByteOrderMark text = text := by
  unfold dropByteOrderMark
  split
  · next rest =>
      have hstart := dropTrivia_cons (by decide : isBlank '\ufeff' = false)
        (by decide) rest
      have hpart : readKeyPart ('\ufeff' :: rest) = none := by
        have hbare : isBareKeyChar '\ufeff' = false := by decide
        simp [readKeyPart, hbare]
      have hblank : dropBlank ('\ufeff' :: rest) = '\ufeff' :: rest :=
        List.dropWhile_cons_of_neg (by decide)
      have hnone : readStatement ('\ufeff' :: rest) = none := by
        simp [readStatement, readPair, readKey, readPath, hblank, hpart]
      rw [readStatements.eq_def, hstart] at hread
      simp [hnone] at hread
  · rfl

theorem parse?_page {page : Page} (hreadable : page.IsReadable)
    (hdiffer : page.sheet.KeysDiffer) :
    parse? (String.ofList page.text) = some page.sheet.entries := by
  have hread := readStatements_page hreadable
  apply parse?_of_statements _ hdiffer
  rw [String.toList_ofList, dropByteOrderMark_of_readStatements hread, hread]

end Pinhole.Toml
