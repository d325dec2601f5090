import Pinhole.Toml.Tree

/-!
# Tables by their keys
-/

namespace Pinhole.Toml

/-- No key is given twice. -/
def KeysDiffer {α : Type} (entries : List (String × α)) : Prop :=
  (entries.map Prod.fst).Nodup

theorem KeysDiffer.lookup_eq_none {α : Type} {key : String} {item : α}
    {before after : List (String × α)}
    (hdiffer : KeysDiffer (before ++ (key, item) :: after)) :
    before.lookup key = none := by
  rw [KeysDiffer, List.map_append, List.map_cons] at hdiffer
  rw [List.lookup_eq_none_iff]
  intro entry hmem
  rw [bne_iff_ne]
  have hne := (List.nodup_append.mp hdiffer).2.2 entry.1
    (List.mem_map_of_mem hmem) key List.mem_cons_self
  exact hne.symm

theorem KeysDiffer.map {α β : Type} {entries : List (String × α)}
    (hdiffer : KeysDiffer entries) (f : String × α → String × β)
    (hkeys : ∀ entry, (f entry).1 = entry.1) : KeysDiffer (entries.map f) := by
  have hsame : (entries.map f).map Prod.fst = entries.map Prod.fst := by
    rw [List.map_map]
    exact List.map_congr_left fun entry _ => hkeys entry
  rw [KeysDiffer, hsame]
  exact hdiffer

theorem lookup_last {α : Type} {key : String} {before : List (String × α)}
    (habsent : before.lookup key = none) (item : α) :
    (before ++ [(key, item)]).lookup key = some item := by
  rw [List.lookup_append, habsent, List.lookup_cons_self]
  rfl

theorem mem_of_lookup {α : Type} {key : String} {item : α}
    {entries : List (String × α)} (hlookup : entries.lookup key = some item) :
    (key, item) ∈ entries := by
  obtain ⟨before, after, rfl, _⟩ := List.lookup_eq_some_iff.mp hlookup
  exact List.mem_append_right before List.mem_cons_self

theorem lookup_map_items {α β : Type} (f : α → β)
    (entries : List (String × α)) (key : String) :
    (entries.map fun entry => (entry.1, f entry.2)).lookup key =
      (entries.lookup key).map f := by
  induction entries with
  | nil => rfl
  | cons entry entries ih =>
      rw [List.map_cons, List.lookup_cons, List.lookup_cons, ih]
      split <;> rfl

theorem Entries.replace_last {key : String} {before : Entries}
    (habsent : before.lookup key = none) (old new : Node) :
    Entries.replace (before ++ [(key, old)]) key new =
      before ++ [(key, new)] := by
  rw [List.lookup_eq_none_iff] at habsent
  have hkeep : Entries.replace before key new = before := by
    rw [Entries.replace, List.map_congr_left, List.map_id]
    intro entry hmem
    have hne := habsent entry hmem
    rw [bne_iff_ne] at hne
    rw [if_neg hne.symm, id]
  rw [Entries.replace] at hkeep ⊢
  rw [List.map_append, hkeep, List.map_singleton, if_pos rfl]

theorem entriesToValues_eq_map (entries : Entries) :
    entriesToValues entries =
      entries.map fun entry => (entry.1, entry.2.toValue) := by
  induction entries with
  | nil => rfl
  | cons entry entries ih => rw [entriesToValues, ih, List.map_cons]

theorem elementsToValues_eq_map (elements : List Entries) :
    elementsToValues elements =
      elements.map fun entries => .table (entriesToValues entries) := by
  induction elements with
  | nil => rfl
  | cons entries elements ih => rw [elementsToValues, ih, List.map_cons]

end Pinhole.Toml
