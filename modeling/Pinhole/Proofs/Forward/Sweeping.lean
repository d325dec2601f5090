import Pinhole.Proofs.Forward.SessionHistory

/-!
# What a sweep takes away

A sweep at an instant takes away the sessions that were idle for more than half
a minute then, and nothing else.  So it takes away what removing the swept
sources one after another does, two sweeps come to the one at the later
instant, and a session that was active recently enough stays whatever becomes
of the others.

The instants need not be in order: activity may be noted for an instant that is
still to come, and a sweep may be followed by one at an earlier instant.
-/

namespace Pinhole

/-- Idle at the later of two instants is idle at one of them. -/
theorem Session.isExpired_max (session : Session) (first second : Instant) :
    session.isExpired (max first second) =
      (session.isExpired first || session.isExpired second) := by
  have hlimit (last first second : Int) (limit : Nat) :
      last + limit < max first second ↔
        last + limit < first ∨ last + limit < second := by
    omega
  rw [Bool.eq_iff_iff, Bool.or_eq_true, Session.isExpired_iff,
    Session.isExpired_iff, Session.isExpired_iff]
  exact hlimit _ _ _ _

namespace SessionTable

/-- Takes the session of a source away. -/
def erase (table : SessionTable) (source : SocketAddress) : SessionTable where
  entries := table.others source
  router := table.router
  nodup_sources :=
    table.nodup_sources.sublist (List.filter_sublist.map Prod.fst)

/-- The sources whose sessions a sweep closes. -/
def sweptSources (table : SessionTable) (now : Instant) : List SocketAddress :=
  (table.sweep now).2.map Prod.fst

theorem eq_of_entries_eq {left right : SessionTable}
    (hentries : left.entries = right.entries)
    (hrouter : left.router = right.router) : left = right := by
  cases left
  cases right
  cases hentries
  cases hrouter
  rfl

variable {table : SessionTable} {source : SocketAddress} {session : Session}
  {now : Instant}

/-! ## The sessions that go and those that stay -/

theorem mem_sweep_iff :
    (source, session) ∈ (table.sweep now).2 ↔
      table.get? source = some session ∧
        Duration.seconds 30 < Instant.since now session.lastActivity := by
  rw [get?_eq_some_iff, sweep, List.mem_filter, Session.isExpired,
    decide_eq_true_iff, Session.idleLimit]

theorem mem_sweptSources_iff :
    source ∈ table.sweptSources now ↔
      ∃ session, table.get? source = some session ∧
        Duration.seconds 30 < Instant.since now session.lastActivity := by
  simp only [sweptSources, List.mem_map, Prod.exists, exists_and_right,
    exists_eq_right, mem_sweep_iff]

theorem nodup_sweptSources (table : SessionTable) (now : Instant) :
    (table.sweptSources now).Nodup :=
  table.nodup_sources.sublist (List.filter_sublist.map Prod.fst)

theorem mem_sweptSources_iff_isExpired
    (hsession : table.get? source = some session) :
    source ∈ table.sweptSources now ↔ session.isExpired now = true := by
  rw [mem_sweptSources_iff, hsession, Session.isExpired, decide_eq_true_iff,
    Session.idleLimit]
  simp

theorem get?_sweep_eq_ite (table : SessionTable) (source : SocketAddress)
    (now : Instant) :
    (table.sweep now).1.get? source =
      if source ∈ table.sweptSources now then none
      else table.get? source := by
  rw [get?_sweep]
  cases hsession : table.get? source with
  | none => simp
  | some session =>
      by_cases hexpired : session.isExpired now = true
      · rw [if_pos ((mem_sweptSources_iff_isExpired hsession).mpr hexpired)]
        simp [hexpired]
      · rw [if_neg (hexpired ∘ (mem_sweptSources_iff_isExpired hsession).mp)]
        simp [hexpired]

/-! ## Removal in a second pass -/

theorem entries_foldl_erase (table : SessionTable)
    (sources : List SocketAddress) :
    (sources.foldl erase table).entries =
      table.entries.filter fun entry => entry.1 ∉ sources := by
  induction sources generalizing table with
  | nil => simp
  | cons source sources ih =>
      rw [List.foldl_cons, ih]
      simp only [erase, others, List.filter_filter, List.mem_cons, not_or]
      apply List.filter_congr
      intro entry _
      rw [Bool.decide_and, Bool.and_comm]

theorem router_foldl_erase (table : SessionTable)
    (sources : List SocketAddress) :
    (sources.foldl erase table).router = table.router := by
  induction sources generalizing table with
  | nil => rfl
  | cons source sources ih => exact ih (table.erase source)

/-- The sources that are idle are collected first and removed after that. -/
theorem foldl_erase_sweptSources (table : SessionTable) (now : Instant) :
    (table.sweptSources now).foldl erase table = (table.sweep now).1 := by
  apply eq_of_entries_eq
  · rw [entries_foldl_erase]
    apply List.filter_congr
    intro entry hentry
    have hsession : table.get? entry.1 = some entry.2 :=
      get?_eq_some_iff.mpr hentry
    simp [mem_sweptSources_iff_isExpired hsession]
  · rw [router_foldl_erase]
    rfl

/-! ## Two sweeps -/

theorem sweep_sweep (table : SessionTable) (first second : Instant) :
    ((table.sweep first).1.sweep second).1 =
      (table.sweep (max first second)).1 := by
  apply eq_of_entries_eq
  · simp only [sweep, List.filter_filter, Session.isExpired_max, Bool.not_or]
    apply List.filter_congr
    intro entry _
    exact Bool.and_comm _ _
  · rfl

theorem perm_sweep_sweep (table : SessionTable) (first second : Instant) :
    ((table.sweep first).2 ++ ((table.sweep first).1.sweep second).2).Perm
      (table.sweep (max first second)).2 := by
  have hparts :=
    List.filter_append_perm (fun entry => entry.2.isExpired first)
      (table.sweep (max first second)).2
  have hfirst :
      (table.sweep (max first second)).2.filter
          (fun entry => entry.2.isExpired first) =
        (table.sweep first).2 := by
    simp only [sweep, List.filter_filter, Session.isExpired_max]
    apply List.filter_congr
    intro entry _
    cases entry.2.isExpired first <;> rfl
  have hsecond :
      (table.sweep (max first second)).2.filter
          (fun entry => !entry.2.isExpired first) =
        ((table.sweep first).1.sweep second).2 := by
    simp only [sweep, List.filter_filter, Session.isExpired_max]
    apply List.filter_congr
    intro entry _
    cases entry.2.isExpired first <;> simp
  rwa [hfirst, hsecond] at hparts

/-! ## Activity before a sweep -/

theorem touch_of_get?_eq_none (hnone : table.get? source = none)
    (active : Instant) : table.touch source active = table := by
  apply eq_of_entries_eq
  · have hsame : ∀ entry ∈ table.entries,
        (if entry.1 = source then
          (entry.1, { entry.2 with lastActivity := active })
        else entry) = entry := by
      intro entry hentry
      apply if_neg
      rintro rfl
      rw [get?_eq_some_iff.mpr hentry] at hnone
      cases hnone
    exact (List.map_congr_left hsame).trans (List.map_id' _)
  · rfl

theorem not_isExpired_of_since_le {active : Instant}
    (hrecent : Instant.since now active ≤ Duration.seconds 30) :
    Session.isExpired { session with lastActivity := active } now = false := by
  rw [Session.isExpired, decide_eq_false_iff_not, Nat.not_lt]
  exact hrecent

/-- Of the sessions that a sweep closes, only that of the source is spared if
it was active recently enough. -/
theorem sweep_touch_snd {active : Instant}
    (hrecent : Instant.since now active ≤ Duration.seconds 30) :
    ((table.touch source active).sweep now).2 =
      (table.sweep now).2.filter fun entry => entry.1 ≠ source := by
  simp only [sweep, touch, List.filter_map, List.filter_filter]
  have hfilter : ∀ entry ∈ table.entries,
      (((fun entry : SocketAddress × Session => entry.2.isExpired now) ∘
          fun entry =>
            if entry.1 = source then
              (entry.1, { entry.2 with lastActivity := active })
            else entry) entry) =
        (decide (entry.1 ≠ source) && entry.2.isExpired now) := by
    intro entry _
    by_cases hsource : entry.1 = source
    · simp [hsource, not_isExpired_of_since_le hrecent]
    · simp [hsource]
  rw [List.filter_congr hfilter]
  refine (List.map_congr_left ?_).trans (List.map_id' _)
  intro entry hentry
  have hsource : entry.1 ≠ source := by
    have hkept := (List.mem_filter.mp hentry).2
    simp only [Bool.and_eq_true, decide_eq_true_eq] at hkept
    exact hkept.1
  exact if_neg hsource

/-! ## The sweep as a whole -/

/-- A sweep at an instant takes the idle sessions away and tells whose they
were. -/
structure TakesIdle (table : SessionTable) (now : Instant) : Prop where
  closed : ∀ source session,
    (source, session) ∈ (table.sweep now).2 ↔
      table.get? source = some session ∧
        Duration.seconds 30 < Instant.since now session.lastActivity
  returned : ∀ source,
    source ∈ table.sweptSources now ↔
      ∃ session, table.get? source = some session ∧
        Duration.seconds 30 < Instant.since now session.lastActivity
  once : (table.sweptSources now).Nodup
  left : ∀ source,
    (table.sweep now).1.get? source =
      if source ∈ table.sweptSources now then none else table.get? source
  router : (table.sweep now).1.router = table.router
  erased : (table.sweptSources now).foldl erase table = (table.sweep now).1
  again : (table.sweep now).1.sweep now = ((table.sweep now).1, [])

/-- Activity of a source keeps its session through a sweep, and no other. -/
structure Protects (table : SessionTable) (source : SocketAddress)
    (active now : Instant) : Prop where
  kept : ∀ session, table.get? source = some session →
    ((table.touch source active).sweep now).1.get? source =
      some { session with lastActivity := active }
  absent : table.get? source = none →
    (table.touch source active).sweep now = table.sweep now
  others : ∀ other, other ≠ source →
    ((table.touch source active).sweep now).1.get? other =
      (table.sweep now).1.get? other
  closed : ((table.touch source active).sweep now).2 =
    (table.sweep now).2.filter fun entry => entry.1 ≠ source

theorem sweep_again (table : SessionTable) (now : Instant) :
    (table.sweep now).1.sweep now = ((table.sweep now).1, []) := by
  have htable := table.sweep_sweep now now
  have hclosed := table.perm_sweep_sweep now now
  rw [Int.max_self] at htable hclosed
  have hnothing : ((table.sweep now).1.sweep now).2 = [] := by
    have hlength := hclosed.length_eq
    rw [List.length_append] at hlength
    apply List.eq_nil_of_length_eq_zero
    omega
  exact Prod.ext htable hnothing

theorem protects_touch (table : SessionTable) (source : SocketAddress)
    {active : Instant}
    (hrecent : Instant.since now active ≤ Duration.seconds 30) :
    table.Protects source active now where
  kept := by
    intro session hsession
    rw [get?_sweep, get?_touch_self hsession, Option.filter_some,
      not_isExpired_of_since_le hrecent]
    rfl
  absent := by
    intro hnone
    rw [touch_of_get?_eq_none hnone]
  others := by
    intro other hother
    rw [get?_sweep, get?_touch_of_ne _ hother, get?_sweep]
  closed := sweep_touch_snd hrecent

theorem takesIdle_sweep (table : SessionTable) :
    (∀ now, table.TakesIdle now) ∧
      (∀ first second,
        ((table.sweep first).1.sweep second).1 =
            (table.sweep (max first second)).1 ∧
          ((table.sweep first).2 ++
              ((table.sweep first).1.sweep second).2).Perm
            (table.sweep (max first second)).2) ∧
      ∀ source active now,
        Instant.since now active ≤ Duration.seconds 30 →
          table.Protects source active now := by
  refine ⟨?_, ?_, ?_⟩
  · intro now
    exact
      { closed := fun _ _ => mem_sweep_iff
        returned := fun _ => mem_sweptSources_iff
        once := table.nodup_sweptSources now
        left := fun source => table.get?_sweep_eq_ite source now
        router := rfl
        erased := table.foldl_erase_sweptSources now
        again := table.sweep_again now }
  · intro first second
    exact ⟨table.sweep_sweep first second,
      table.perm_sweep_sweep first second⟩
  · intro source active now hrecent
    exact table.protects_touch source hrecent

def early : SocketAddress := .v4 ⟨⟨198, 51, 100, 1⟩, 5000⟩

/-- Sessions that were last active at the start, a second later and at an
instant that is still to come. -/
def crowd : SessionTable :=
  let second : SocketAddress := .v4 ⟨⟨198, 51, 100, 2⟩, 5000⟩
  let ahead : SocketAddress := .v4 ⟨⟨198, 51, 100, 3⟩, 5000⟩
  let first := (empty.insert early 10 0).1
  ((first.insert second 11 (Duration.seconds 1)).1.insert ahead 12
    (Duration.seconds 90)).1

theorem takesIdle_sweep_crowd :
    Instant.since (Duration.seconds 31) (Duration.seconds 1) ≤
        Duration.seconds 30 ∧
      crowd.sweptSources (Duration.seconds 31) = [early] ∧
      crowd.Protects early (Duration.seconds 1) (Duration.seconds 31) :=
  ⟨by decide, by decide, (takesIdle_sweep crowd).2.2 _ _ _ (by decide)⟩

end SessionTable

end Pinhole
