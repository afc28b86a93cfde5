import DocStore.Order.StableSort.Gallop

/-!
This module contains the merge of two neighbouring runs of a stable sort. Elements are taken one by
one until one side wins several times in a row; from then on whole stretches are taken as long as
that pays.
-/

namespace DocStore.StableSort

variable {ε α : Type}

def countLess (less : α → α → Except ε Bool) (key : α) (xs : List α) (guess : Nat) : Except ε Nat :=
  gallop (fun x => less x key) xs.toArray guess

def countNotGreater (less : α → α → Except ε Bool) (key : α) (xs : List α) (guess : Nat)
    : Except ε Nat :=
  gallop (fun x => return !(← less key x)) xs.toArray guess

structure Remains (α : Type) where
  atFront : Bool
  left : List α
  right : List α
  merged : List α := []

namespace Remains

def followedBy (r : Remains α) (xs : List α) : List α :=
  if r.atFront then r.merged.reverse ++ xs else xs ++ r.merged

/--
The end of a merge: one side is used up, or the last element of the side that is merged from its
outer end is the greatest or the least one.
-/
def finish? (r : Remains α) : Option (List α) :=
  match r.atFront, r.left, r.right with
  | _, [], right => some (r.followedBy right)
  | _, left, [] => some (r.followedBy left)
  | true, [x], right => some (r.followedBy (right ++ [x]))
  | false, left, [y] => some (r.followedBy (y :: left))
  | _, _, _ => none

def heads? (r : Remains α) : Option (α × α) :=
  if r.atFront then return (← r.left.head?, ← r.right.head?)
  else return (← r.left.getLast?, ← r.right.getLast?)

def split (r : Remains α) (xs : List α) (n : Nat) : List α × List α :=
  if r.atFront then ((xs.take n).reverse, xs.drop n)
  else (xs.drop (xs.length - n), xs.take (xs.length - n))

def takeLeft (r : Remains α) (n : Nat) : Remains α :=
  let (taken, left) := r.split r.left n
  { r with left, merged := taken ++ r.merged }

def takeRight (r : Remains α) (n : Nat) : Remains α :=
  let (taken, right) := r.split r.right n
  { r with right, merged := taken ++ r.merged }

def leftStretch (less : α → α → Except ε Bool) (r : Remains α) (y : α) : Except ε Nat := do
  if r.atFront then countNotGreater less y r.left 0
  else return r.left.length - (← countNotGreater less y r.left (r.left.length - 1))

def rightStretch (less : α → α → Except ε Bool) (r : Remains α) (x : α) : Except ε Nat := do
  if r.atFront then countLess less x r.right 0
  else return r.right.length - (← countLess less x r.right (r.right.length - 1))

end Remains

inductive Phase where
  | single (leftWins rightWins : Nat)
  | leftStretch
  | oneRight (fromLeft : Nat)
  | rightStretch (fromLeft : Nat)
  | oneLeft (fromLeft fromRight : Nat)

def worthwhile : Nat := 7

/-- Merge two runs. The patience is the number of wins in a row that stretches are tried after. -/
def mergeRemains (less : α → α → Except ε Bool) :
    Nat → Nat → Phase → Remains α → Except ε (List α × Nat)
  | 0, patience, _, r => .ok (r.followedBy (r.left ++ r.right), patience)
  | fuel + 1, patience, phase, r =>
    match r.finish?, r.heads? with
    | some done, _ => .ok (done, patience)
    | none, none => .ok (r.followedBy (r.left ++ r.right), patience)
    | none, some (x, y) =>
      match phase with
      | .single leftWins rightWins => do
        let fromRight := (← less y x) == r.atFront
        let (leftWins, rightWins) := if fromRight then (0, rightWins + 1) else (leftWins + 1, 0)
        let rest := if fromRight then r.takeRight 1 else r.takeLeft 1
        if patience ≤ leftWins || patience ≤ rightWins then
          mergeRemains less fuel patience .leftStretch rest
        else mergeRemains less fuel patience (.single leftWins rightWins) rest
      | .leftStretch => do
        let n ← r.leftStretch less y
        mergeRemains less fuel patience (.oneRight n) (r.takeLeft n)
      | .oneRight n => mergeRemains less fuel patience (.rightStretch n) (r.takeRight 1)
      | .rightStretch n => do
        let m ← r.rightStretch less x
        mergeRemains less fuel patience (.oneLeft n m) (r.takeRight m)
      | .oneLeft n m =>
        let rest := r.takeLeft 1
        match rest.finish? with
        | some done => .ok (done, patience)
        | none =>
          if worthwhile ≤ n || worthwhile ≤ m then
            mergeRemains less fuel (max 1 (patience - 1)) .leftStretch rest
          else mergeRemains less fuel (patience + 1) (.single 0 0) rest

/--
Merge two runs. What is in place already at the front of the left run and at the back of the right
run is left there; the shorter remainder decides at which end the merge begins.
-/
def merge (less : α → α → Except ε Bool) (patience : Nat) (left right : List α) :
    Except ε (List α × Nat) := do
  match right.head? with
  | none => return (left, patience)
  | some y =>
    let n ← countNotGreater less y left 0
    let before := left.take n
    let left := left.drop n
    match left.getLast? with
    | none => return (before ++ right, patience)
    | some x =>
      let m ← countLess less x right (right.length - 1)
      let after := right.drop m
      let right := right.take m
      if right.isEmpty then return (before ++ left ++ after, patience)
      let fuel := 4 * (left.length + right.length)
      let start : Remains α :=
        if left.length ≤ right.length then Remains.takeRight ⟨true, left, right, []⟩ 1
        else Remains.takeLeft ⟨false, left, right, []⟩ 1
      let (merged, patience) ← mergeRemains less fuel patience (.single 0 0) start
      return (before ++ merged ++ after, patience)

end DocStore.StableSort
