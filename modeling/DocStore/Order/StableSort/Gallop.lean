/-!
This module contains the search for the place of an element in a sorted list: the steps away from a
first guess grow, and then a bisection follows.
-/

namespace DocStore.StableSort

variable {ε α : Type}

def bisect (passes : Nat → Except ε Bool) (first last : Nat) : Except ε Nat :=
  if first < last then do
    let middle := first + (last - first) / 2
    if ← passes middle then bisect passes (middle + 1) last else bisect passes first middle
  else .ok last
termination_by last - first

/--
The last step that passes a test and the first one that does not. Steps grow from one on: each is
twice the one before it and one more, and none exceeds the bound.
-/
def stride (passes : Nat → Except ε Bool) (bound passed step : Nat) : Except ε (Nat × Nat) :=
  if step < bound then do
    if ← passes step then stride passes bound step (2 * step + 1) else return (passed, step)
  else .ok (passed, bound)
termination_by bound - step

/--
The number of leading elements that pass a test, which the others fail. The search begins at a
guess, an index of the array.
-/
def gallop (passes : α → Except ε Bool) (xs : Array α) (guess : Nat) : Except ε Nat := do
  if ← at? guess then
    let (low, high) ← stride (fun s => at? (guess + s)) (xs.size - guess) 0 1
    bisect at? (guess + low + 1) (guess + high)
  else
    let (low, high) ← stride (fun s => return !(← at? (guess - s))) (guess + 1) 0 1
    bisect at? (guess + 1 - high) (guess - low)
where
  at? (i : Nat) : Except ε Bool :=
    match xs[i]? with
    | some x => passes x
    | none => .ok false

end DocStore.StableSort
