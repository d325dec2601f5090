import Pinhole.Forward.SessionTable
import Pinhole.Proofs.Lookup

/-!
# What the operations do to a session table

A table is looked at in two ways: by the session of each source, and by the
assignments of private sockets to sources and routes, which leave the times of
activity out.  Each operation has one lemma for each view, so that nothing
later needs to know how the entries are kept.
-/

namespace Pinhole

/-- Whom a private socket stands for, and where it leads. -/
structure Assignment where
  socket : SocketId
  source : SocketAddress
  route : Route
deriving DecidableEq, Repr

namespace SessionTable

/-- The assignments of the sessions in a table. -/
def assignments (table : SessionTable) : List Assignment :=
  table.entries.map fun entry =>
    ⟨entry.2.socket, entry.1, entry.2.route⟩

/-! ## The session of a source -/

theorem get?_eq_some_iff {table : SessionTable} {source : SocketAddress}
    {session : Session} :
    table.get? source = some session ↔ (source, session) ∈ table.entries :=
  lookup_eq_some_iff_mem table.nodup_sources source session

theorem get?_touch_self {table : SessionTable} {source : SocketAddress}
    {session : Session} (hsession : table.get? source = some session)
    (now : Instant) :
    (table.touch source now).get? source =
      some { session with lastActivity := now } := by
  rw [get?_eq_some_iff] at hsession ⊢
  exact List.mem_map.mpr ⟨(source, session), hsession, by simp⟩

theorem get?_insert_self (table : SessionTable) (source : SocketAddress)
    (socket : SocketId) (now : Instant) :
    (table.insert source socket now).1.get? source =
      some ⟨socket, table.upcomingRoute, now⟩ := by
  rw [get?_eq_some_iff]
  exact List.mem_append_right _ (List.mem_singleton.mpr rfl)

theorem get?_insert_of_ne (table : SessionTable)
    {source other : SocketAddress} (hother : other ≠ source)
    (socket : SocketId) (now : Instant) :
    (table.insert source socket now).1.get? other = table.get? other := by
  apply Option.ext
  intro session
  rw [get?_eq_some_iff, get?_eq_some_iff]
  simp [insert, others, hother]

theorem get?_touch_of_ne (table : SessionTable)
    {source other : SocketAddress} (hother : other ≠ source)
    (now : Instant) :
    (table.touch source now).get? other = table.get? other := by
  apply Option.ext
  intro session
  rw [get?_eq_some_iff, get?_eq_some_iff]
  simp only [touch, List.mem_map]
  constructor
  · rintro ⟨entry, hentry, hsame⟩
    by_cases hsource : entry.1 = source
    · rw [if_pos hsource] at hsame
      cases hsame
      exact absurd hsource hother
    · rw [if_neg hsource] at hsame
      rwa [← hsame]
  · intro hentry
    exact ⟨_, hentry, if_neg hother⟩

theorem get?_touch (table : SessionTable) (source other : SocketAddress)
    (now : Instant) :
    (table.touch source now).get? other =
      if other = source then
        (table.get? other).map ({ · with lastActivity := now })
      else table.get? other := by
  by_cases hother : other = source
  · subst hother
    rw [if_pos rfl]
    cases hsession : table.get? other with
    | some session => exact get?_touch_self hsession now
    | none =>
        apply Option.eq_none_iff_forall_ne_some.mpr
        intro session htouched
        rw [get?_eq_some_iff] at htouched
        simp only [touch, List.mem_map] at htouched
        obtain ⟨entry, hentry, hsame⟩ := htouched
        have hsource : entry.1 = other := by
          by_cases hsource : entry.1 = other
          · exact hsource
          · rw [if_neg hsource] at hsame
            rw [hsame]
        have hheld : table.get? other = some entry.2 :=
          get?_eq_some_iff.mpr (by rwa [← hsource])
        rw [hsession] at hheld
        cases hheld
  · rw [if_neg hother]
    exact table.get?_touch_of_ne hother now

theorem get?_sweep (table : SessionTable) (source : SocketAddress)
    (now : Instant) :
    (table.sweep now).1.get? source =
      (table.get? source).filter fun session => !session.isExpired now := by
  apply Option.ext
  intro session
  rw [get?_eq_some_iff, Option.filter_eq_some_iff, get?_eq_some_iff]
  exact List.mem_filter

/-- The owner of a private socket holds it in its session. -/
theorem get?_of_owner? {table : SessionTable} {socket : SocketId}
    {source : SocketAddress} (howner : table.owner? socket = some source) :
    ∃ session, table.get? source = some session ∧
      session.socket = socket := by
  unfold owner? at howner
  obtain ⟨entry, hfound, rfl⟩ := Option.map_eq_some_iff.mp howner
  have hmem : entry ∈ table.entries := List.mem_of_find?_eq_some hfound
  have hsocket := List.find?_some hfound
  exact
    ⟨entry.2, get?_eq_some_iff.mpr hmem, by simpa using hsocket⟩

/-! ## The assignments -/

theorem mem_assignments_of_get? {table : SessionTable}
    {source : SocketAddress} {session : Session}
    (hsession : table.get? source = some session) :
    ⟨session.socket, source, session.route⟩ ∈ table.assignments :=
  List.mem_map.mpr ⟨(source, session), get?_eq_some_iff.mp hsession, rfl⟩

@[simp] theorem assignments_empty : empty.assignments = [] := rfl

@[simp] theorem assignments_touch (table : SessionTable)
    (source : SocketAddress) (now : Instant) :
    (table.touch source now).assignments = table.assignments := by
  unfold assignments touch
  rw [List.map_map]
  apply List.map_congr_left
  intro entry _
  simp only [Function.comp_apply]
  split <;> rfl

theorem assignments_sweep_sublist (table : SessionTable) (now : Instant) :
    (table.sweep now).1.assignments.Sublist table.assignments :=
  List.filter_sublist.map _

theorem mem_assignments_insert {table : SessionTable}
    {source : SocketAddress} {socket : SocketId} {now : Instant}
    {assignment : Assignment}
    (hmem :
      assignment ∈ (table.insert source socket now).1.assignments) :
    assignment ∈ table.assignments ∨
      assignment = ⟨socket, source, table.upcomingRoute⟩ := by
  simp only [assignments, insert, others, List.map_append, List.mem_append,
    List.map_cons, List.map_nil, List.mem_singleton] at hmem
  rcases hmem with hold | hnew
  · left
    exact (List.filter_sublist.map _).subset hold
  · right
    exact hnew

/-! ## The entries that stay and those that go -/

theorem perm_insert (table : SessionTable) (source : SocketAddress)
    (socket : SocketId) (now : Instant) :
    ((source, ⟨socket, table.upcomingRoute, now⟩) :: table.entries).Perm
      ((table.insert source socket now).1.entries ++
        ((table.insert source socket now).2.map (source, ·)).toList) := by
  have hreplaced :
      ((table.get? source).map (source, ·)).toList =
        table.entries.filter fun entry => entry.1 = source :=
    (filter_key_eq table.nodup_sources source).symm
  have hsplit :
      (table.others source ++
          table.entries.filter fun entry => entry.1 = source).Perm
        table.entries := by
    have hparts :=
      List.filter_append_perm (fun entry => entry.1 ≠ source) table.entries
    simpa [others] using hparts
  change List.Perm _
    (table.others source ++ [(source, ⟨socket, table.upcomingRoute, now⟩)] ++
      ((table.get? source).map (source, ·)).toList)
  rw [hreplaced, List.append_assoc, List.singleton_append]
  exact (hsplit.cons _).symm.trans List.perm_middle.symm

theorem perm_sweep (table : SessionTable) (now : Instant) :
    table.entries.Perm
      ((table.sweep now).1.entries ++ (table.sweep now).2) := by
  have hparts :=
    List.filter_append_perm (fun entry => !entry.2.isExpired now)
      table.entries
  simpa [sweep] using hparts.symm

/-! ## The router -/

@[simp] theorem router_insert (table : SessionTable) (source : SocketAddress)
    (socket : SocketId) (now : Instant) :
    (table.insert source socket now).1.router =
      ⟨table.router.assigned + 1⟩ := rfl

end SessionTable

end Pinhole
