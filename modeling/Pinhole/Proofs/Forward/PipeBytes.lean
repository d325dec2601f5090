import Mathlib.Logic.Function.Basic
import Pinhole.Forward.Splice

/-!
# What a pipe holds

What was read at one end of a pipe is what was written at the other, followed
by what waits in it.  A pipe that the end of the stream was read into has
something to write left, or it would have ended.
-/

namespace Pinhole

/-- What an event brings into a pipe. -/
def PipeEvent.bytes : PipeEvent → Bytes
  | .read bytes => bytes
  | .endOfStream | .readFailed | .wrote _ | .writeFailed => []

def PipeEvent.Fails (event : PipeEvent) : Prop :=
  event = .readFailed ∨ event = .writeFailed

namespace Pipe

variable {pipe : Pipe} {received delivered : Bytes} {ended : Prop}

/-- A pipe holds the bytes that were received and not yet delivered.  It would
have ended if there were none and no more to come. -/
structure Holds (pipe : Pipe) (received delivered : Bytes) (ended : Prop) :
    Prop where
  bytes : received = delivered ++ pipe.waiting
  drained : pipe.drained = true ↔ ended
  unfinished : ended → pipe.waiting ≠ []

theorem holds_empty (hended : ¬ended) : empty.Holds [] [] ended where
  bytes := rfl
  drained := by simp [empty, hended]
  unfinished := fun h => absurd h hended

/-- An event leaves a pipe with what it should hold, or it is a failure, or the
pipe ends with everything delivered. -/
theorem Holds.step_cases (hholds : pipe.Holds received delivered ended)
    {event : PipeEvent} (hread : ∀ bytes, event = .read bytes → ¬ended) :
    (∃ next written, pipe.step event = (some next, written) ∧ ¬event.Fails ∧
        next.Holds (received ++ event.bytes) (delivered ++ written)
          (ended ∨ event = .endOfStream)) ∨
      (pipe.step event = (none, []) ∧ event.Fails) ∨
      ∃ written, pipe.step event = (none, written) ∧ ¬event.Fails ∧
        (ended ∨ event = .endOfStream) ∧
        delivered ++ written = received ++ event.bytes := by
  obtain ⟨hbytes, hdrained, hunfinished⟩ := hholds
  cases event with
  | read bytes =>
      have hmore := hread bytes rfl
      have hopen : ¬pipe.drained = true := mt hdrained.mp hmore
      left
      refine ⟨{ pipe with waiting := pipe.waiting ++ bytes }, [], ?_,
        by simp [PipeEvent.Fails], ?_⟩
      · rw [step, if_neg hopen]
      · exact
          { bytes := by
              rw [hbytes, List.append_nil, List.append_assoc]
              rfl
            drained := by simpa using hdrained
            unfinished := by simp [hmore] }
  | endOfStream =>
      by_cases hempty : pipe.waiting = []
      · right
        right
        refine ⟨[], ?_, by simp [PipeEvent.Fails], Or.inr rfl, ?_⟩
        · rw [step, if_pos hempty]
        · rw [hbytes, hempty]
          exact (List.append_nil _).symm
      · left
        refine ⟨{ pipe with drained := true }, [], ?_,
          by simp [PipeEvent.Fails], ?_⟩
        · rw [step, if_neg hempty]
        · exact
            { bytes := by
                rw [hbytes, List.append_nil]
                exact List.append_nil _
              drained := by simp
              unfinished := fun _ => hempty }
  | wrote count =>
      have hsplit : delivered ++ pipe.waiting.take count ++
          pipe.waiting.drop count = received ++ [] := by
        rw [List.append_assoc, List.take_append_drop, List.append_nil, hbytes]
      by_cases hdone : pipe.drained = true ∧ pipe.waiting.drop count = []
      · right
        right
        refine ⟨pipe.waiting.take count, ?_, by simp [PipeEvent.Fails],
          Or.inl (hdrained.mp hdone.1), ?_⟩
        · simp only [step, if_pos hdone]
        · rw [hdone.2, List.append_nil] at hsplit
          exact hsplit
      · left
        refine ⟨{ pipe with waiting := pipe.waiting.drop count },
          pipe.waiting.take count, ?_, by simp [PipeEvent.Fails], ?_⟩
        · simp only [step, if_neg hdone]
        · exact
            { bytes := hsplit.symm
              drained := by simpa using hdrained
              unfinished := by
                intro hended hempty
                rw [or_iff_left nofun] at hended
                exact hdone ⟨hdrained.mpr hended, hempty⟩ }
  | readFailed => exact Or.inr (Or.inl ⟨rfl, Or.inl rfl⟩)
  | writeFailed => exact Or.inr (Or.inl ⟨rfl, Or.inr rfl⟩)

end Pipe

/-- A splice that copies through these pipes. -/
def Splice.ofPipes (pipes : Direction → Pipe) : Splice :=
  .copying (pipes .toTarget) (pipes .toClient)

theorem Splice.step_ofPipes (pipes : Direction → Pipe) (now : Instant)
    (direction : Direction) (event : PipeEvent) :
    (ofPipes pipes).step now (.pipe direction event) =
      (((pipes direction).step event).1.map fun pipe =>
          ofPipes (Function.update pipes direction pipe),
        [(direction, ((pipes direction).step event).2)]) := by
  cases direction <;> rfl

end Pinhole
