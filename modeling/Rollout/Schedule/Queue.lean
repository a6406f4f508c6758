import Rollout.Text.Units

/-
The queue of nodes that may start next: ids in ascending order. A new id is placed by
halving the range of places it can go to.
-/
namespace Rollout
namespace Schedule

/-- The first place between `low` and `high` whose id is not before `id`, found by
halving. The range shrinks with every step, so its width bounds the steps. -/
def lowerBound (ready : List String) (id : String) : Nat → Nat → Nat → Nat
  | 0, low, _ => low
  | steps + 1, low, high =>
    if low < high then
      let middle := (low + high) / 2
      match ready[middle]? with
      | some other =>
        if Text.precedes other id then lowerBound ready id steps (middle + 1) high
        else lowerBound ready id steps low middle
      | none => low
    else low

/-- The place of an id in a queue. -/
def place (ready : List String) (id : String) : Nat :=
  lowerBound ready id ready.length 0 ready.length

/-- The queue with one more id. -/
def enqueue (ready : List String) (id : String) : List String :=
  ready.take (place ready id) ++ id :: ready.drop (place ready id)

/-- The ids in ascending order. -/
def sorted (ids : List String) : List String := ids.foldl enqueue []

end Schedule
end Rollout
