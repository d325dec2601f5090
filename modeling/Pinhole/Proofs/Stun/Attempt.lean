import Pinhole.Stun.Attempt

/-!
# Running attempts

An attempt is run on a state by running its parts one after another, up to the
first that fails.
-/

namespace Pinhole

namespace Attempt

variable {S α β ε : Type}

theorem run_bind_of_ok {attempt : ExceptT ε (StateM S) α} {state after : S}
    {result : α} (hrun : attempt.run state = (.ok result, after))
    (next : α → ExceptT ε (StateM S) β) :
    (attempt >>= next).run state = (next result).run after := by
  have hstate : attempt state = (.ok result, after) := hrun
  simp only [bind, ExceptT.bind, ExceptT.mk, ExceptT.run, StateT.bind, hstate]
  rfl

theorem run_bind_of_error {attempt : ExceptT ε (StateM S) α}
    {state after : S} {error : ε}
    (hrun : attempt.run state = (.error error, after))
    (next : α → ExceptT ε (StateM S) β) :
    (attempt >>= next).run state = (.error error, after) := by
  have hstate : attempt state = (.error error, after) := hrun
  simp only [bind, ExceptT.bind, ExceptT.mk, ExceptT.run, StateT.bind, hstate]
  rfl

/-- A sequence goes on from what its first operation comes to. -/
theorem run_bind_congr {attempt other : Attempt S α} {state elsewhere : S}
    (hrun : attempt.run state = other.run elsewhere)
    (next : α → Attempt S β) :
    (attempt >>= next).run state = (other >>= next).run elsewhere := by
  cases hother : other.run elsewhere with
  | mk outcome after =>
      rw [hother] at hrun
      cases outcome with
      | error error =>
          rw [run_bind_of_error hrun, run_bind_of_error hother]
      | ok result => rw [run_bind_of_ok hrun, run_bind_of_ok hother]

/-- A sequence that succeeds is made of two operations that do. -/
theorem exists_of_run_bind {attempt : Attempt S α} {next : α → Attempt S β}
    {state after : S} {result : β}
    (hrun : (attempt >>= next).run state = (.ok result, after)) :
    ∃ found between, attempt.run state = (.ok found, between) ∧
      (next found).run between = (.ok result, after) := by
  cases hfirst : attempt.run state with
  | mk outcome between =>
      cases outcome with
      | error error =>
          rw [run_bind_of_error hfirst] at hrun
          cases hrun
      | ok found =>
          rw [run_bind_of_ok hfirst] at hrun
          exact ⟨found, between, rfl, hrun⟩

@[simp] theorem run_get (state : S) :
    (get : Attempt S S).run state = (.ok state, state) := rfl

@[simp] theorem run_always (operation : StateM S α) (state : S) :
    (always operation).run state =
      (.ok (operation state).1, (operation state).2) := rfl

@[simp] theorem run_ofResult (result : Except StunError α) (state : S) :
    (ofResult result).run state = (result, state) := rfl

@[simp] theorem run_ofProtocol (result : Except ProtocolError α)
    (state : S) :
    (ofProtocol result).run state =
      (result.mapError .protocol, state) := rfl

theorem run_ofSystem_of_ok {operation : StateM S (Except SystemError α)}
    {state after : S} {result : α}
    (hrun : operation state = (.ok result, after))
    (describe : SystemError → StunError) :
    (ofSystem describe operation).run state = (.ok result, after) := by
  simp only [ofSystem, bind, ExceptT.mk, ExceptT.run, StateT.bind, hrun]
  rfl

theorem run_ofSystem_of_error
    {operation : StateM S (Except SystemError α)} {state after : S}
    {cause : SystemError} (hrun : operation state = (.error cause, after))
    (describe : SystemError → StunError) :
    (ofSystem describe operation).run state =
      (.error (describe cause), after) := by
  simp only [ofSystem, bind, ExceptT.mk, ExceptT.run, StateT.bind, hrun]
  rfl

theorem eq_ok_of_run_ofSystem
    {operation : StateM S (Except SystemError α)} {state after : S}
    {result : α} {describe : SystemError → StunError}
    (hrun : (ofSystem describe operation).run state = (.ok result, after)) :
    operation state = (.ok result, after) := by
  cases hoperation : operation state with
  | mk outcome between =>
      cases outcome with
      | error cause =>
          rw [run_ofSystem_of_error hoperation] at hrun
          cases hrun
      | ok found =>
          rw [run_ofSystem_of_ok hoperation] at hrun
          cases hrun
          rfl

end Attempt

end Pinhole
