import DocStore.Order.StableSort.Merge
import DocStore.Order.StableSort.Run

/-!
This module contains a stable sort for comparisons that can fail: a list is cut into runs, and
neighbouring runs are merged so that the merges stay balanced.
-/

namespace DocStore.StableSort

variable {ε α : Type}

/--
The least length of a run in a list: short lists are one run, longer ones nearly a power of two of
them.
-/
def leastRun (n : Nat) : Nat :=
  if 64 ≤ n then leastRun.go n 0 n else n
where
  go : Nat → Nat → Nat → Nat
    | 0, cut, n => n + cut
    | fuel + 1, cut, n => if 64 ≤ n then go fuel (max cut (n % 2)) (n / 2) else n + cut

/--
The depth at which two neighbouring runs are joined in a balanced tree over a list: the first binary
place in which the middles of the runs, as fractions of the length of the list, are different.
-/
def depth (total start left right : Nat) : Nat :=
  go (2 * total.log2 + 4) 1 (2 * start + left) (2 * start + 2 * left + right)
where
  go : Nat → Nat → Nat → Nat → Nat
    | 0, place, _, _ => place
    | fuel + 1, place, a, b =>
      if total ≤ a then go fuel (place + 1) (2 * (a - total)) (2 * (b - total))
      else if total ≤ b then place
      else go fuel (place + 1) (2 * a) (2 * b)

structure Run (α : Type) where
  items : List α
  start : Nat
  depth : Nat := 0

def joinTop (less : α → α → Except ε Bool) (patience : Nat) :
    List (Run α) → Except ε (List (Run α) × Nat)
  | b :: a :: rest => do
    let (items, patience) ← merge less patience a.items b.items
    return (⟨items, a.start, b.depth⟩ :: rest, patience)
  | runs => .ok (runs, patience)

def joinBelowTop (less : α → α → Except ε Bool) (patience : Nat) :
    List (Run α) → Except ε (List (Run α) × Nat)
  | c :: rest => do
    let (rest, patience) ← joinTop less patience rest
    return (c :: rest, patience)
  | [] => .ok ([], patience)

def joinDeeper (less : α → α → Except ε Bool) (limit : Nat) :
    Nat → List (Run α) → Nat → Except ε (List (Run α) × Nat)
  | 0, runs, patience => .ok (runs, patience)
  | fuel + 1, runs, patience =>
    match runs with
    | _ :: a :: _ =>
      if limit < a.depth then do
        let (runs, patience) ← joinTop less patience runs
        joinDeeper less limit fuel runs patience
      else .ok (runs, patience)
    | runs => .ok (runs, patience)

def joinAll (less : α → α → Except ε Bool) : Nat → List (Run α) → Nat → Except ε (List α)
  | 0, runs, _ => .ok (runs.reverse.flatMap (·.items))
  | fuel + 1, runs, patience =>
    match runs with
    | c :: _ :: a :: _ => do
      let (runs, patience) ←
        if a.items.length < c.items.length then joinBelowTop less patience runs
        else joinTop less patience runs
      joinAll less fuel runs patience
    | _ :: _ :: _ => do
      let (runs, patience) ← joinTop less patience runs
      joinAll less fuel runs patience
    | runs => .ok (runs.flatMap (·.items))

def sortRest (less : α → α → Except ε Bool) (total : Nat) :
    Nat → List (Run α) → Nat → Nat → List α → Except ε (List α)
  | 0, runs, patience, _, _ => joinAll less runs.length runs patience
  | fuel + 1, runs, patience, start, xs =>
    if xs.isEmpty then joinAll less runs.length runs patience
    else do
      let (items, rest) ← takeRun less (leastRun total) xs
      let (runs, patience) ←
        match runs with
        | [] => pure ([], patience)
        | top :: _ => do
          let d := depth total top.start top.items.length items.length
          let (joined, patience) ← joinDeeper less d runs.length runs patience
          pure (match joined with
            | top :: below => ({ top with depth := d } :: below, patience)
            | [] => ([], patience))
      sortRest less total fuel (⟨items, start, 0⟩ :: runs) patience (start + items.length) rest

def sort (less : α → α → Except ε Bool) (xs : List α) : Except ε (List α) :=
  sortRest less xs.length xs.length [] worthwhile 0 xs

end DocStore.StableSort
