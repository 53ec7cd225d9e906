/-!
# Sorting by a comparison with effects

A stable merge sort whose comparisons may fail or change a state. The first failure ends it.
-/

namespace NaturalOrder.Sorting

variable {m : Type → Type} [Monad m] {α : Type}

/-- Merges two sorted lists. Of two items of which neither has to come first, that of the first list
does. -/
def merge (le : α → α → m Bool) : List α → List α → m (List α)
  | [], ys => pure ys
  | xs, [] => pure xs
  | x :: xs, y :: ys => do
    if ← le x y then return x :: (← merge le xs (y :: ys))
    else return y :: (← merge le (x :: xs) ys)

def mergeSort (le : α → α → m Bool) (xs : List α) : m (List α) :=
  if xs.length ≤ 1 then pure xs
  else do
    let half := (xs.length + 1) / 2
    let left ← mergeSort le (xs.take half)
    let right ← mergeSort le (xs.drop half)
    merge le left right
termination_by xs.length
decreasing_by all_goals grind

/-- Sorts by an order, or by the reverse of it. Items that are equal keep their places in both
directions. -/
def sortBy (order : α → α → m Ordering) (reverse : Bool) (xs : List α) : m (List α) :=
  mergeSort (fun x y => do
    let o ← order x y
    return if reverse then o.isGE else o.isLE) xs

end NaturalOrder.Sorting
