import Mathlib.Data.List.Rotate
import Mathlib.Data.List.TakeWhile
import Pinhole.Forward.UdpEngine

/-!
# Sessions take turns

The order of turns is a queue.  A search takes the first session that is ready
out of it and puts it behind all others, with those in front of it that were
not ready.  So a session that is always ready moves forward with every search
that does not find it, and the number of searches until it is found is at most
its distance from the front.
-/

namespace Pinhole

namespace Turns

variable {α : Type} {ready : α → Bool} {items : List α} {cursor : Nat}

theorem rotate_eq_rotate (items : List α) (cursor : Nat) :
    rotate items cursor = items.rotate cursor := by
  rw [rotate, List.rotate_eq_drop_append_take_mod]

theorem rotate_perm (items : List α) (cursor : Nat) :
    (rotate items cursor).Perm items := by
  rw [rotate_eq_rotate]
  exact List.rotate_perm items cursor

/-! ## One search -/

/-- What one search does to the order of turns. -/
structure Turn (ready : α → Bool) (items : List α) (cursor : Nat)
    (skipped : List α) (item : α) (rest : List α) (next : Nat) : Prop where
  order : rotate items cursor = skipped ++ item :: rest
  found : ready item = true
  passed : ∀ other ∈ skipped, ready other = false
  behind : rotate items next = rest ++ (skipped ++ [item])
  next_lt : next < 2 * items.length

theorem rotate_behind {skipped rest : List α} {item : α}
    (horder : rotate items cursor = skipped ++ item :: rest) :
    rotate items (cursor % items.length + skipped.length + 1) =
      rest ++ (skipped ++ [item]) := by
  have hlength : (skipped ++ [item]).length = skipped.length + 1 := by
    simp
  have hcut : items.rotate (cursor % items.length) =
      skipped ++ [item] ++ rest := by
    rw [List.rotate_mod, ← rotate_eq_rotate, horder]
    simp
  rw [rotate_eq_rotate, Nat.add_assoc, ← List.rotate_rotate, hcut, ← hlength,
    List.rotate_append_length_eq]

theorem next?_eq_none_iff :
    next? ready items cursor = none ↔
      ∀ item ∈ items, ready item = false := by
  have hmem (item : α) : item ∈ rotate items cursor ↔ item ∈ items :=
    (rotate_perm items cursor).mem_iff
  simp [next?, List.head?_eq_none_iff, List.dropWhile_eq_nil_iff, hmem]

theorem exists_next {item : α} (hmem : item ∈ items)
    (hready : ready item = true) (cursor : Nat) :
    ∃ found next, next? ready items cursor = some (found, next) := by
  have hsome : next? ready items cursor ≠ none := by
    intro hnone
    have hfalse := next?_eq_none_iff.mp hnone item hmem
    simp [hready] at hfalse
  obtain ⟨⟨found, next⟩, hnext⟩ := Option.ne_none_iff_exists'.mp hsome
  exact ⟨found, next, hnext⟩

theorem length_lt_of_order {front back : List α} {item : α}
    (horder : rotate items cursor = front ++ item :: back) :
    front.length < items.length := by
  rw [← (rotate_perm items cursor).length_eq, horder]
  simp

theorem exists_turn {item : α} {next : Nat}
    (hnext : next? ready items cursor = some (item, next)) :
    ∃ skipped rest, Turn ready items cursor skipped item rest next := by
  simp only [next?, Option.map_eq_some_iff, Prod.mk.injEq] at hnext
  obtain ⟨found, hhead, rfl, rfl⟩ := hnext
  obtain ⟨rest, hrest⟩ := List.head?_eq_some_iff.mp hhead
  have horder : rotate items cursor =
      (rotate items cursor).takeWhile (fun item => !ready item) ++
        found :: rest := by
    rw [← hrest, List.takeWhile_append_dropWhile]
  have hready : ready found = true := by
    have hstops := List.head?_dropWhile_not (fun item => !ready item)
      (rotate items cursor)
    simpa [hhead] using hstops
  have hskipped := length_lt_of_order horder
  have hbound : cursor % items.length < items.length :=
    Nat.mod_lt cursor (Nat.zero_lt_of_lt hskipped)
  refine ⟨_, rest, horder, hready, ?_, rotate_behind horder, by omega⟩
  intro other hother
  simpa using List.mem_takeWhile_imp hother

section Turn

variable {skipped rest : List α} {item : α} {next : Nat}

theorem Turn.mem (hturn : Turn ready items cursor skipped item rest next) :
    item ∈ items := by
  rw [← (rotate_perm items cursor).mem_iff, hturn.order]
  simp

theorem Turn.skipped_subset
    (hturn : Turn ready items cursor skipped item rest next) :
    ∀ other ∈ skipped, other ∈ items := by
  intro other hother
  rw [← (rotate_perm items cursor).mem_iff, hturn.order]
  simp [hother]

theorem Turn.skipped_eq_nil
    (hturn : Turn ready items cursor skipped item rest next)
    (hall : ∀ other ∈ items, ready other = true) : skipped = [] := by
  rw [List.eq_nil_iff_forall_not_mem]
  intro other hother
  have hready := hall other (hturn.skipped_subset other hother)
  simp [hturn.passed other hother] at hready

/-- One that is ready is found, or moves forward in the order. -/
theorem Turn.found_or_forward
    (hturn : Turn ready items cursor skipped item rest next) {other : α}
    (hready : ready other = true) {before behind : List α}
    (horder : rotate items cursor = before ++ other :: behind) :
    item = other ∨ ∃ front back, rotate items next = front ++ other :: back ∧
      front.length < before.length := by
  rw [hturn.order, List.append_eq_append_iff] at horder
  rcases horder with ⟨between, rfl, hcons⟩ | ⟨between, rfl, hcons⟩
  · cases between with
    | nil => exact Or.inl (List.cons.inj hcons).1
    | cons first front =>
        obtain ⟨rfl, rfl⟩ := List.cons.inj hcons
        refine Or.inr ⟨front, behind ++ (skipped ++ [item]), ?_, ?_⟩
        · simp [hturn.behind]
        · simp
          omega
  · cases between with
    | nil => exact Or.inl (List.cons.inj hcons).1.symm
    | cons first front =>
        obtain ⟨rfl, _⟩ := List.cons.inj hcons
        have hnot := hturn.passed other (by simp)
        simp [hready] at hnot

end Turn

/-! ## One search after another -/

/-- What is found when searches follow each other, each at a moment at which
some items are ready.  A search that finds nothing waits. -/
def served (items : List α) : (cursor : Nat) → List (α → Bool) → List α
  | _, [] => []
  | cursor, ready :: later =>
      match next? ready items cursor with
      | none => served items cursor later
      | some (item, cursor) => item :: served items cursor later

theorem exists_served_eq {moments : List (α → Bool)} {early late : List α}
    (hserved : served items cursor moments = early ++ late) :
    ∃ before after next, moments = before ++ after ∧
      served items next after = late := by
  induction early generalizing cursor moments with
  | nil => exact ⟨[], moments, cursor, rfl, hserved⟩
  | cons first early ih =>
      induction moments generalizing cursor with
      | nil => simp [served] at hserved
      | cons ready moments ihm =>
          rw [served] at hserved
          split at hserved
          case h_1 =>
            obtain ⟨before, after, next, rfl, hafter⟩ := ihm hserved
            exact ⟨ready :: before, after, next, rfl, hafter⟩
          case h_2 =>
            obtain ⟨_, hrest⟩ := List.cons.inj hserved
            obtain ⟨before, after, next, rfl, hafter⟩ := ih hrest
            exact ⟨ready :: before, after, next, rfl, hafter⟩

/-- An item that is ready whenever any is. -/
def AlwaysReady (items : List α) (moments : List (α → Bool)) (item : α) :
    Prop :=
  ∀ ready ∈ moments, (∃ other ∈ items, ready other = true) →
    ready item = true

theorem mem_take_served {moments : List (α → Bool)} {item : α}
    (halways : AlwaysReady items moments item) {before behind : List α}
    (horder : rotate items cursor = before ++ item :: behind)
    (hlong : before.length < (served items cursor moments).length) :
    item ∈ (served items cursor moments).take (before.length + 1) := by
  induction moments generalizing cursor before behind with
  | nil => simp [served] at hlong
  | cons ready moments ih =>
      rw [AlwaysReady, List.forall_mem_cons] at halways
      obtain ⟨hready, hlater⟩ := halways
      rw [served] at hlong ⊢
      cases hnext : next? ready items cursor with
      | none =>
          simp only [hnext] at hlong ⊢
          exact ih hlater horder hlong
      | some found =>
          obtain ⟨other, next⟩ := found
          simp only [hnext, List.length_cons] at hlong
          obtain ⟨skipped, rest, hturn⟩ := exists_turn hnext
          have hitem := hready ⟨other, hturn.mem, hturn.found⟩
          -- Each search that misses it leaves fewer in front of it.
          rcases hturn.found_or_forward hitem horder with
            rfl | ⟨front, back, hfront, hshorter⟩
          · simp
          · have hmem := ih hlater hfront (by omega)
            have hmore := List.take_subset_take_left
              (served items next moments) (Nat.succ_le_of_lt hshorter)
            simp [hmore hmem]

/-- If all are ready at all moments, they are found in their order. -/
theorem eq_of_served {moments : List (α → Bool)}
    (hall : ∀ ready ∈ moments, ∀ item ∈ items, ready item = true)
    {queue more window late : List α}
    (horder : rotate items cursor = queue ++ more)
    (hserved : served items cursor moments = window ++ late)
    (hlength : window.length = queue.length) : window = queue := by
  induction moments generalizing cursor queue more window with
  | nil =>
      obtain ⟨rfl, _⟩ := List.append_eq_nil_iff.mp hserved.symm
      simpa [eq_comm] using hlength
  | cons ready moments ih =>
      rw [List.forall_mem_cons] at hall
      cases queue with
      | nil => simpa using hlength
      | cons first queue =>
          have hfirst : first ∈ items := by
            rw [← (rotate_perm items cursor).mem_iff, horder]
            simp
          obtain ⟨item, next, hnext⟩ :=
            exists_next hfirst (hall.1 first hfirst) cursor
          obtain ⟨skipped, rest, hturn⟩ := exists_turn hnext
          obtain rfl := hturn.skipped_eq_nil hall.1
          have hsame := hturn.order
          simp only [horder, List.cons_append, List.nil_append,
            List.cons.injEq] at hsame
          obtain ⟨rfl, rfl⟩ := hsame
          simp only [served, hnext] at hserved
          cases window with
          | nil => simp at hlength
          | cons second window =>
              obtain ⟨rfl, hlater⟩ := List.cons.inj hserved
              have hbehind := hturn.behind
              rw [List.append_assoc] at hbehind
              rw [ih hall.2 hbehind hlater (by simpa using hlength)]

theorem length_served {moments : List (α → Bool)} (hsome : items ≠ [])
    (hall : ∀ ready ∈ moments, ∀ item ∈ items, ready item = true) :
    (served items cursor moments).length = moments.length := by
  obtain ⟨first, others, hitems⟩ := List.exists_cons_of_ne_nil hsome
  induction moments generalizing cursor with
  | nil => simp [served]
  | cons ready moments ih =>
      rw [List.forall_mem_cons] at hall
      have hfirst : first ∈ items := by
        simp [hitems]
      obtain ⟨found, next, hnext⟩ :=
        exists_next hfirst (hall.1 first hfirst) cursor
      simp [served, hnext, ih hall.2]

theorem next?_map {β : Type} (f : α → β) (ready : β → Bool) :
    next? ready (items.map f) cursor =
      (next? (fun item => ready (f item)) items cursor).map
        fun (item, cursor) => (f item, cursor) := by
  have hrotate : rotate (items.map f) cursor = (rotate items cursor).map f := by
    rw [rotate_eq_rotate, rotate_eq_rotate, List.map_rotate]
  simp [next?, hrotate, List.takeWhile_map, List.dropWhile_map,
    Function.comp_def]

end Turns

/-! ## The sessions of an engine -/

namespace UdpEngine

def sockets (engine : UdpEngine) : List SocketId :=
  engine.sessions.entries.map fun entry => entry.2.socket

/-- Which sockets an engine reads when it searches again and again, each time
at a moment at which some can be read. -/
def reads (engine : UdpEngine) : List (SocketId → Bool) → List SocketId
  | [] => []
  | readable :: later =>
      match engine.nextReadable? readable with
      | none => engine.reads later
      | some (socket, engine) => socket :: engine.reads later

theorem nextReadable?_eq (engine : UdpEngine) (readable : SocketId → Bool) :
    engine.nextReadable? readable =
      (Turns.next? readable engine.sockets engine.cursor).map
        fun (socket, cursor) => (socket, { engine with cursor := cursor }) := by
  rw [nextReadable?, sockets, Turns.next?_map, Option.map_map]
  rfl

theorem reads_eq_served (engine : UdpEngine)
    (moments : List (SocketId → Bool)) :
    engine.reads moments =
      Turns.served engine.sockets engine.cursor moments := by
  induction moments generalizing engine with
  | nil => simp [reads, Turns.served]
  | cons readable moments ih =>
      rw [reads, Turns.served, nextReadable?_eq]
      cases Turns.next? readable engine.sockets engine.cursor with
      | none => simp [ih]
      | some found => simp [ih, sockets]

/-- The sessions of an engine take turns at being read. -/
structure TakesTurns (engine : UdpEngine) : Prop where
  waits : ∀ readable, engine.nextReadable? readable = none ↔
    ∀ socket ∈ engine.sockets, readable socket = false
  turn : ∀ readable socket after,
    engine.nextReadable? readable = some (socket, after) →
      after = { engine with cursor := after.cursor } ∧
        socket ∈ engine.sockets ∧
        ∃ skipped rest, Turns.Turn readable engine.sockets engine.cursor
          skipped socket rest after.cursor
  fair : ∀ moments, ∀ socket ∈ engine.sockets,
    Turns.AlwaysReady engine.sockets moments socket →
      ∀ early window late, engine.reads moments = early ++ window ++ late →
        engine.sockets.length ≤ window.length → socket ∈ window
  inTurn : ∀ moments : List (SocketId → Bool),
    (∀ readable ∈ moments, ∀ socket ∈ engine.sockets,
      readable socket = true) →
      (engine.sockets ≠ [] →
        (engine.reads moments).length = moments.length) ∧
      ∀ early window late, engine.reads moments = early ++ window ++ late →
        window.length = engine.sockets.length → window.Perm engine.sockets

/-- Whatever the sessions are and wherever the search starts, a search finds a
session that can be read and skips only such as cannot, and it waits if there is
none.  Of as many searches as there are sessions, one finds each session that
can always be read, and if all can, each is found once. -/
theorem takesTurns (engine : UdpEngine) : engine.TakesTurns where
  waits readable := by
    rw [nextReadable?_eq, Option.map_eq_none_iff, Turns.next?_eq_none_iff]
  turn readable socket after hnext := by
    rw [nextReadable?_eq] at hnext
    simp only [Option.map_eq_some_iff, Prod.mk.injEq] at hnext
    obtain ⟨⟨found, cursor⟩, hfound, rfl, rfl⟩ := hnext
    obtain ⟨skipped, rest, hturn⟩ := Turns.exists_turn hfound
    exact ⟨rfl, hturn.mem, skipped, rest, hturn⟩
  fair moments socket hmem halways early window late hreads hlong := by
    rw [reads_eq_served, List.append_assoc] at hreads
    obtain ⟨before, after, next, rfl, hserved⟩ :=
      Turns.exists_served_eq hreads
    -- The socket stands somewhere in the order at the start of the window.
    have hplace : socket ∈ Turns.rotate engine.sockets next :=
      (Turns.rotate_perm engine.sockets next).mem_iff.mpr hmem
    obtain ⟨front, back, horder⟩ := List.append_of_mem hplace
    have hfront : front.length < window.length :=
      Nat.lt_of_lt_of_le (Turns.length_lt_of_order horder) hlong
    have hlater : Turns.AlwaysReady engine.sockets after socket :=
      fun readable hreadable =>
        halways readable (List.mem_append_right before hreadable)
    have hfound := Turns.mem_take_served hlater horder (by
      rw [hserved, List.length_append]
      omega)
    rw [hserved, List.take_append_of_le_length hfront] at hfound
    exact List.mem_of_mem_take hfound
  inTurn moments hall := by
    refine ⟨fun hsome => ?_, ?_⟩
    · rw [reads_eq_served, Turns.length_served hsome hall]
    · intro early window late hreads hlength
      rw [reads_eq_served, List.append_assoc] at hreads
      obtain ⟨before, after, next, rfl, hserved⟩ :=
        Turns.exists_served_eq hreads
      have hperm := Turns.rotate_perm engine.sockets next
      have horder : Turns.rotate engine.sockets next =
          Turns.rotate engine.sockets next ++ [] := by
        simp
      have hwindow := Turns.eq_of_served
        (fun readable hreadable =>
          hall readable (List.mem_append_right before hreadable))
        horder hserved (hlength.trans hperm.length_eq.symm)
      rw [hwindow]
      exact hperm

end UdpEngine

end Pinhole
