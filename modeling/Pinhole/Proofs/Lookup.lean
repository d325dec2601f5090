import Mathlib.Data.List.Nodup

/-!
# Looking up in a list without repeated keys

Sessions and publications are both kept as lists of keys with values, in which
no key stands twice.
-/

namespace Pinhole

variable {α β : Type} [BEq α] [LawfulBEq α]

theorem lookup_eq_some_iff_mem {entries : List (α × β)}
    (hnodup : (entries.map Prod.fst).Nodup) (key : α) (value : β) :
    entries.lookup key = some value ↔ (key, value) ∈ entries := by
  induction entries with
  | nil => simp
  | cons entry entries ih =>
      obtain ⟨other, first⟩ := entry
      simp only [List.map_cons, List.nodup_cons] at hnodup
      rw [List.lookup_cons]
      by_cases hkey : key = other
      · subst hkey
        have habsent : (key, value) ∉ entries := by
          intro hmem
          exact hnodup.1 (List.mem_map.mpr ⟨_, hmem, rfl⟩)
        simp only [beq_self_eq_true, Option.some.injEq,
          List.mem_cons, Prod.mk.injEq, true_and, habsent, or_false]
        exact eq_comm
      · have hbeq : (key == other) = false := by simpa using hkey
        simp only [hbeq, List.mem_cons, Prod.mk.injEq, hkey, false_and,
          false_or]
        exact ih hnodup.2

/-- The entry of a key, if there is one, is all that stands under it. -/
theorem filter_key_eq [DecidableEq α] {entries : List (α × β)}
    (hnodup : (entries.map Prod.fst).Nodup) (key : α) :
    entries.filter (fun entry => entry.1 = key) =
      ((entries.lookup key).map (key, ·)).toList := by
  induction entries with
  | nil => rfl
  | cons entry entries ih =>
      obtain ⟨other, first⟩ := entry
      simp only [List.map_cons, List.nodup_cons] at hnodup
      have hlater := ih hnodup.2
      by_cases hkey : other = key
      · subst hkey
        have hothers :
            entries.filter (fun entry => entry.1 = other) = [] := by
          rw [List.filter_eq_nil_iff]
          intro entry hentry hsame
          apply hnodup.1
          exact List.mem_map.mpr ⟨entry, hentry, by simpa using hsame⟩
        simp [hothers]
      · have hbeq : (key == other) = false := by
          simpa using Ne.symm hkey
        simp only [List.filter_cons, hkey, decide_false, Bool.false_eq_true,
          if_false, List.lookup_cons, hbeq]
        exact hlater

omit [BEq α] [LawfulBEq α] in
/-- What is read from a single key is read from its value. -/
theorem filterMap_ite_key_eq [DecidableEq α] {γ : Type}
    {entries : List (α × β)} (hnodup : (entries.map Prod.fst).Nodup)
    {key : α} {value : β} (hmem : (key, value) ∈ entries)
    (read : β → Option γ) :
    (entries.filterMap fun entry =>
      if entry.1 = key then read entry.2 else none) =
        (read value).toList := by
  induction entries with
  | nil => simp at hmem
  | cons entry entries ih =>
      simp only [List.map_cons, List.nodup_cons] at hnodup
      rcases List.mem_cons.mp hmem with rfl | hlater
      · have hothers :
            (entries.filterMap fun entry =>
              if entry.1 = key then read entry.2 else none) = [] := by
          rw [List.filterMap_eq_nil_iff]
          intro other hother
          apply if_neg
          rintro hkey
          exact hnodup.1 (List.mem_map.mpr ⟨other, hother, hkey⟩)
        rw [List.filterMap_cons, hothers, if_pos rfl]
        cases read value <;> rfl
      · have hne : entry.1 ≠ key := by
          intro hkey
          exact hnodup.1 (List.mem_map.mpr ⟨_, hlater, hkey.symm⟩)
        rw [List.filterMap_cons, if_neg hne]
        exact ih hnodup.2 hlater

end Pinhole
