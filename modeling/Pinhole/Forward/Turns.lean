/-!
# Taking turns

Sessions are read in turns: the search for one that is ready starts behind the
one that was read last, wherever that now is, and goes round once.
-/

namespace Pinhole.Turns

/-- The items from a position on, then those before it. -/
def rotate {α : Type} (items : List α) (cursor : Nat) : List α :=
  let start := cursor % items.length
  items.drop start ++ items.take start

/-- The first item that is ready in the order of turns, and the position from
which the next search starts. -/
def next? {α : Type} (ready : α → Bool) (items : List α) (cursor : Nat) :
    Option (α × Nat) :=
  let turns := rotate items cursor
  let skipped := (turns.takeWhile fun item => !ready item).length
  (turns.dropWhile fun item => !ready item).head?.map fun item =>
    (item, cursor % items.length + skipped + 1)

end Pinhole.Turns
