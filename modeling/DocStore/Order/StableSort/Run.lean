/-!
This module contains the runs of a stable sort for comparisons that can fail: the leading run of a
list is found, and further elements are inserted into it one after another by bisection.
-/

namespace DocStore.StableSort

variable {ε α : Type}

def ascendingRun (less : α → α → Except ε Bool) (x : α) : List α → Except ε (List α × List α)
  | [] => .ok ([x], [])
  | y :: ys => do
    if ← less y x then return ([x], y :: ys)
    else
      let (run, rest) ← ascendingRun less y ys
      return (x :: run, rest)

def descendingRun (less : α → α → Except ε Bool) (x : α) : List α → Except ε (List α × List α)
  | [] => .ok ([x], [])
  | y :: ys => do
    if ← less y x then
      let (run, rest) ← descendingRun less y ys
      return (x :: run, rest)
    else return ([x], y :: ys)

def leadingRun (less : α → α → Except ε Bool) : List α → Except ε (List α × List α)
  | [] => .ok ([], [])
  | [x] => .ok ([x], [])
  | x :: y :: rest => do
    if ← less y x then
      let (run, rest) ← descendingRun less y rest
      return ((x :: run).reverse, rest)
    else
      let (run, rest) ← ascendingRun less y rest
      return (x :: run, rest)

def insert (less : α → α → Except ε Bool) (pivot : α) (xs : List α) : Except ε (List α) :=
  match h : xs.drop (xs.length / 2) with
  | [] => .ok [pivot]
  | x :: upper => do
    have : xs.length / 2 + (upper.length + 1) = xs.length := by
      have := congrArg List.length h
      simp only [List.length_drop, List.length_cons] at this
      omega
    if ← less pivot x then
      return (← insert less pivot (xs.take (xs.length / 2))) ++ x :: upper
    else
      return xs.take (xs.length / 2) ++ x :: (← insert less pivot upper)
termination_by xs.length

def insertAll (less : α → α → Except ε Bool) (sorted : List α) : List α → Except ε (List α)
  | [] => .ok sorted
  | x :: xs => do insertAll less (← insert less x sorted) xs

def takeRun (less : α → α → Except ε Bool) (least : Nat) (xs : List α)
    : Except ε (List α × List α) := do
  let (run, rest) ← leadingRun less xs
  let missing := least - run.length
  return (← insertAll less run (rest.take missing), rest.drop missing)

end DocStore.StableSort
