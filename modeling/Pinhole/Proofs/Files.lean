import Pinhole.Files

/-!
# Files that are there

A path that leads to a file leads through directories only, so writing to it
creates nothing on the way.  Whether it can be written is up to the file
alone, and no path leads anywhere else afterwards.
-/

namespace Pinhole

theorem bind_eq_ok_iff {ε α β : Type} {first : Except ε α}
    {next : α → Except ε β} {result : β} :
    first >>= next = .ok result ↔
      ∃ value, first = .ok value ∧ next value = .ok result := by
  cases first with
  | error error => simp [bind, Except.bind]
  | ok value => simp [bind, Except.bind]

theorem mem_of_mem_fields {separator : Char} {text field : List Char}
    (hfield : field ∈ fields separator text) {char : Char}
    (hchar : char ∈ field) : char ∈ text := by
  induction text generalizing field with
  | nil =>
      rw [fields, List.mem_singleton] at hfield
      exact absurd hchar (by simp [hfield])
  | cons first rest ih =>
      rw [List.mem_cons]
      unfold fields at hfield
      split at hfield
      · rcases List.mem_cons.mp hfield with rfl | hrest
        · cases hchar
        · exact Or.inr (ih hrest hchar)
      · split at hfield
        · rename_i hnone
          exact absurd hnone (fields_ne_nil separator rest)
        · rename_i opening others hrest
          rcases List.mem_cons.mp hfield with rfl | hothers
          · rcases List.mem_cons.mp hchar with rfl | hopening
            · exact Or.inl rfl
            · exact Or.inr
                (ih (hrest ▸ List.mem_cons_self) hopening)
          · exact Or.inr
              (ih (hrest ▸ List.mem_cons_of_mem _ hothers) hchar)

theorem fromUTF8?_eq_some_iff {contents : ByteArray} {text : String} :
    String.fromUTF8? contents = some text ↔ text.toUTF8 = contents := by
  unfold String.fromUTF8?
  constructor
  · intro hread
    split at hread
    · rw [← Option.some.inj hread]
      rfl
    · cases hread
  · rintro rfl
    exact dif_pos text.isValidUTF8

namespace FileTree

variable {tree : FileTree} {path : String} {place start : Place}
  {contents : ByteArray} {writable : Bool}

/-- A path leads to a place at which there is a file. -/
structure FileAt (tree : FileTree) (path : String) (place : Place)
    (contents : ByteArray) (writable : Bool) : Prop where
  leads : tree.place path = .ok place
  file : tree.node? place = some (.file contents writable)

/-! ## Reading -/

theorem read_eq_ok_iff :
    tree.read path = .ok contents ↔
      ∃ place writable, tree.FileAt path place contents writable := by
  rw [read, bind_eq_ok_iff]
  constructor
  · rintro ⟨place, hplace, hread⟩
    split at hread
    · cases hread
    · cases hread
    · rename_i found writable hnode
      cases hread
      exact ⟨place, writable, hplace, hnode⟩
  · rintro ⟨place, writable, hplace, hnode⟩
    refine ⟨place, hplace, ?_⟩
    rw [hnode]
    rfl

theorem readText_eq_ok_iff {text : String} :
    tree.readText path = .ok text ↔ tree.read path = .ok text.toUTF8 := by
  rw [readText, bind_eq_ok_iff]
  constructor
  · rintro ⟨contents, hread, htext⟩
    split at htext
    · rename_i found hfound
      cases htext
      rw [hread, fromUTF8?_eq_some_iff.mp hfound]
    · cases htext
  · intro hread
    refine ⟨text.toUTF8, hread, ?_⟩
    rw [fromUTF8?_eq_some_iff.mpr rfl]
    rfl

/-! ## Following a path -/

theorem place_eq_ok_iff :
    tree.place path = .ok place ↔
      path ≠ "" ∧ path.contains '\x00' = false ∧
        path.utf8ByteSize ≤ pathLimit ∧
        tree.follow [] (parts path) = .ok place := by
  unfold FileTree.place
  split
  · simp_all
  · split
    · simp_all
    · split
      · rename_i hlong
        have hshort : ¬ path.utf8ByteSize ≤ pathLimit :=
          Nat.not_le.mpr hlong
        simp [hshort]
      · simp_all

theorem createDirectories_of_directory {part : String} {rest : PathParts}
    (habove : part ≠ "..") (hshort : ¬ nameLimit < part.utf8ByteSize)
    (hnode : tree.node? (start ++ [part]) = some .directory) :
    (createDirectories start (part :: rest)).run tree =
      (createDirectories (start ++ [part]) rest).run tree := by
  rw [createDirectories, if_neg habove, if_neg hshort]
  have hget (next : FileTree → FileOperation Unit) :
      ((get : FileOperation FileTree) >>= next).run tree =
        (next tree).run tree := rfl
  rw [hget, hnode]

theorem directory_of_follow {part : String} {rest : PathParts}
    (hfollow : tree.follow start (part :: rest) = .ok place) :
    tree.node? start = some .directory := by
  rw [follow] at hfollow
  split at hfollow
  · cases hfollow
  · cases hfollow
  · assumption

/-- The directories on the way of a path are there, so none is created. -/
theorem createDirectories_of_follow {parts : PathParts}
    (hfollow : tree.follow start parts = .ok place) :
    (createDirectories start
        (parts.filter fun part => !staysPut part).dropLast).run tree =
      (.ok (), tree) := by
  induction parts generalizing start with
  | nil => rfl
  | cons part rest ih =>
      rw [follow] at hfollow
      split at hfollow
      · cases hfollow
      · cases hfollow
      · by_cases hstays : staysPut part
        · rw [if_pos hstays] at hfollow
          rw [List.filter_cons_of_neg (by simpa using hstays)]
          exact ih hfollow
        · rw [if_neg hstays] at hfollow
          rw [List.filter_cons_of_pos (by simpa using hstays)]
          -- The last part is the file's own name, which is not looked at.
          cases hrest : rest.filter fun part => !staysPut part with
          | nil => rfl
          | cons next others =>
              rw [List.dropLast_cons_cons, ← hrest]
              by_cases habove : part = ".."
              · rw [if_pos habove] at hfollow
                rw [createDirectories, if_pos habove]
                exact ih hfollow
              · rw [if_neg habove] at hfollow
                by_cases hlong : nameLimit < part.utf8ByteSize
                · rw [if_pos hlong] at hfollow
                  cases hfollow
                · rw [if_neg hlong] at hfollow
                  rw [createDirectories_of_directory habove hlong]
                  · exact ih hfollow
                  · cases rest with
                    | nil => cases hrest
                    | cons second rest => exact directory_of_follow hfollow

/-- A path without a zero character has none in its parts. -/
theorem not_any_parts_contains (hnone : path.contains '\x00' = false) :
    (parent path).any (·.contains '\x00') = false := by
  rw [List.any_eq_false]
  intro part hpart
  have hparts : part ∈ parts path :=
    (List.mem_filter.mp (List.dropLast_subset _ hpart)).1
  obtain ⟨field, hfield, rfl⟩ := List.mem_map.mp hparts
  simp only [String.contains_char_eq, String.toList_ofList,
    decide_eq_true_eq]
  simp only [String.contains_char_eq, decide_eq_false_iff_not] at hnone
  intro hmem
  exact hnone (mem_of_mem_fields hfield hmem)

/-! ## Writing -/

theorem ne_nil_of_file
    (hfile : tree.node? place = some (.file contents writable)) :
    place ≠ [] := by
  rintro rfl
  cases hfile

theorem node?_put_self (hplace : place ≠ []) (tree : FileTree)
    (node : FileNode) : (tree.put place node).node? place = some node := by
  cases place with
  | nil => exact absurd rfl hplace
  | cons name rest => exact if_pos rfl

theorem node?_put_of_ne {other : Place} (hother : other ≠ place)
    (tree : FileTree) (node : FileNode) :
    (tree.put place node).node? other = tree.node? other := by
  cases other with
  | nil => rfl
  | cons name rest => exact if_neg hother

/-- A file with other contents stands in nobody's way more than before. -/
theorem follow_put (hfile : tree.node? place = some (.file contents writable))
    (renewed : ByteArray) (start : Place) (parts : PathParts) :
    (tree.put place (.file renewed true)).follow start parts =
      tree.follow start parts := by
  induction parts generalizing start with
  | nil => rfl
  | cons part rest ih =>
      rw [follow, follow]
      by_cases hstart : start = place
      · rw [hstart, node?_put_self (ne_nil_of_file hfile), hfile]
      · rw [node?_put_of_ne hstart]
        simp only [ih]

theorem place_put (hfile : tree.node? place = some (.file contents writable))
    (renewed : ByteArray) (path : String) :
    (tree.put place (.file renewed true)).place path = tree.place path := by
  simp only [FileTree.place, follow_put hfile]

namespace FileAt

variable (hfileAt : tree.FileAt path place contents writable)

include hfileAt

theorem put (renewed : ByteArray) :
    (tree.put place (.file renewed true)).FileAt path place renewed true where
  leads := (place_put hfileAt.file renewed path).trans hfileAt.leads
  file := node?_put_self (ne_nil_of_file hfileAt.file) _ _

theorem read_put_of_ne (renewed : ByteArray) {other : String}
    (hother : tree.place other ≠ tree.place path) :
    (tree.put place (.file renewed true)).read other = tree.read other := by
  rw [read, read, place_put hfileAt.file]
  cases hplace : tree.place other with
  | error cause => rfl
  | ok found =>
      rw [hplace, hfileAt.leads] at hother
      have hne : found ≠ place := fun heq => hother (heq ▸ rfl)
      simp only [bind, Except.bind, node?_put_of_ne hne]

/-- Writing to a file that is there replaces its contents, or fails because
it must not be written and leaves all as it is. -/
theorem writeText (text : String) :
    (FileTree.writeText path text).run tree =
      if writable then
        (.ok (), tree.put place (.file text.toUTF8 true))
      else (.error .permissionDenied, tree) := by
  obtain ⟨_, hzero, _, hfollow⟩ := place_eq_ok_iff.mp hfileAt.leads
  have hwritten : tree.written path text.toUTF8 =
      if writable then .ok (tree.put place (.file text.toUTF8 true))
      else .error .permissionDenied := by
    rw [written, hfileAt.leads]
    cases writable <;> simp [bind, Except.bind, hfileAt.file] <;> rfl
  have hdirectories : createDirectories [] (parent path) tree =
      (.ok (), tree) := createDirectories_of_follow hfollow
  rw [FileTree.writeText, not_any_parts_contains hzero]
  simp only [Bool.false_eq_true, if_false, bind, ExceptT.bind, ExceptT.mk,
    ExceptT.run, StateT.bind, ExceptT.bindCont, hdirectories, write, hwritten]
  cases writable <;> rfl

end FileAt

end FileTree

end Pinhole
