import Mathlib.Logic.Function.Defs
import DocStore.Order.StableSort
import DocStore.Proofs.Work

/-!
This module contains the proof that the stable sort looks at elements only through its comparison:
the images of elements are sorted by their comparison in the same way as the elements by the
comparison of their images.
-/

namespace DocStore.StableSort

open Work Function

section

variable {ε α β : Type} (less : β → β → Except ε Bool) (f : α → β)

theorem ascendingRun_image (x : α) (ys : List α)
    : IsImage (Prod.map (List.map f) (List.map f)) (ascendingRun (onFun less f) x ys)
        (ascendingRun less (f x) (ys.map f)) := by
  induction ys generalizing x with
  | nil => exact image_ok rfl
  | cons y ys ih =>
    refine image_then fun c => ?_
    cases c with
    | true => exact image_ok rfl
    | false => exact image_bind (ih y) fun r => image_ok rfl

theorem descendingRun_image (x : α) (ys : List α)
    : IsImage (Prod.map (List.map f) (List.map f)) (descendingRun (onFun less f) x ys)
        (descendingRun less (f x) (ys.map f)) := by
  induction ys generalizing x with
  | nil => exact image_ok rfl
  | cons y ys ih =>
    refine image_then fun c => ?_
    cases c with
    | true => exact image_bind (ih y) fun r => image_ok rfl
    | false => exact image_ok rfl

theorem leadingRun_image (xs : List α)
    : IsImage (Prod.map (List.map f) (List.map f)) (leadingRun (onFun less f) xs)
      (leadingRun less (xs.map f)) := by
  match xs with
  | [] => exact image_ok rfl
  | [x] => exact image_ok rfl
  | x :: y :: rest =>
    refine image_then fun c => ?_
    cases c with
    | true =>
      refine image_bind (descendingRun_image less f y rest) fun r => image_ok ?_
      rw [Prod.map, List.map_reverse]
      rfl
    | false => exact image_bind (ascendingRun_image less f y rest) fun r => image_ok rfl

theorem insert_of_drop_nil {less : α → α → Except ε Bool} {pivot : α} {xs : List α}
    (h : xs.drop (xs.length / 2) = []) : insert less pivot xs = .ok [pivot] := by
  rw [insert]
  split
  next => rfl
  next h' =>
    rw [h] at h'
    cases h'

theorem insert_of_drop_cons {less : α → α → Except ε Bool} {pivot x : α} {xs upper : List α}
    (h : xs.drop (xs.length / 2) = x :: upper)
    : insert less pivot xs = (do
        if ← less pivot x then return (← insert less pivot (xs.take (xs.length / 2))) ++ x :: upper
        else return xs.take (xs.length / 2) ++ x :: (← insert less pivot upper)) := by
  rw [insert]
  split
  next h' =>
    rw [h] at h'
    cases h'
  next h' =>
    rw [h] at h'
    cases h'
    rfl

theorem insert_image (pivot : α) (xs : List α)
    : IsImage (List.map f) (insert (onFun less f) pivot xs) (insert less (f pivot) (xs.map f)) := by
  induction hlength : xs.length using Nat.strongRecOn generalizing xs with
  | ind n ih =>
    have hdrop : (xs.map f).drop ((xs.map f).length / 2) = (xs.drop (xs.length / 2)).map f := by
      rw [List.length_map, List.map_drop]
    cases h : xs.drop (xs.length / 2) with
    | nil =>
      rw [insert_of_drop_nil h, insert_of_drop_nil (by rw [hdrop, h, List.map_nil])]
      exact image_ok rfl
    | cons y upper =>
      rw [h, List.map_cons] at hdrop
      rw [insert_of_drop_cons h, insert_of_drop_cons hdrop, List.length_map, ← List.map_take]
      have hupper := congrArg List.length h
      rw [List.length_drop, List.length_cons] at hupper
      refine image_then fun c => ?_
      cases c with
      | true =>
        refine image_bind (ih _ ?_ _ rfl) fun ys => image_ok ?_
        . rw [List.length_take]
          omega
        . rw [List.map_append, List.map_cons]
      | false =>
        refine image_bind (ih _ (by omega) _ rfl) fun ys => image_ok ?_
        rw [List.map_append, List.map_cons]

theorem insertAll_image (sorted xs : List α)
    : IsImage (List.map f) (insertAll (onFun less f) sorted xs)
      (insertAll less (sorted.map f) (xs.map f)) := by
  induction xs generalizing sorted with
  | nil => exact image_ok rfl
  | cons x xs ih => exact image_bind (insert_image less f x sorted) fun ys => ih ys

theorem takeRun_image (least : Nat) (xs : List α)
    : IsImage (Prod.map (List.map f) (List.map f)) (takeRun (onFun less f) least xs)
        (takeRun less least (xs.map f)) := by
  refine image_bind (leadingRun_image less f xs) fun r => ?_
  dsimp only [Prod.map]
  rw [List.length_map, ← List.map_take, ← List.map_drop]
  exact image_bind (insertAll_image less f _ _) fun ys => image_ok rfl

theorem gallop_map (passes : β → Except ε Bool) (xs : List α) (guess : Nat)
    : gallop passes (xs.map f).toArray guess = gallop (fun x => passes (f x)) xs.toArray guess := by
  have hat : gallop.at? passes (xs.map f).toArray =
      gallop.at? (fun x => passes (f x)) xs.toArray := by
    funext i
    unfold gallop.at?
    rw [List.getElem?_toArray, List.getElem?_toArray, List.getElem?_map]
    cases xs[i]? <;> rfl
  unfold gallop
  rw [hat, List.size_toArray, List.size_toArray, List.length_map]

theorem countLess_map (key : α) (xs : List α) (guess : Nat)
    : countLess less (f key) (xs.map f) guess = countLess (onFun less f) key xs guess :=
  gallop_map f (fun x => less x (f key)) xs guess

theorem countNotGreater_map (key : α) (xs : List α) (guess : Nat)
    : countNotGreater less (f key) (xs.map f) guess = countNotGreater (onFun less f) key xs guess :=
  gallop_map f (fun x => do return !(← less (f key) x)) xs guess

namespace Remains

def map (r : Remains α) : Remains β := ⟨r.atFront, r.left.map f, r.right.map f, r.merged.map f⟩

theorem followedBy_map (r : Remains α) (xs : List α)
    : (r.map f).followedBy (xs.map f) = (r.followedBy xs).map f := by
  unfold followedBy map
  dsimp only
  split
  . rw [List.map_append, List.map_reverse]
  . rw [List.map_append]

theorem followedBy_rest_map (r : Remains α)
    : (r.map f).followedBy ((r.map f).left ++ (r.map f).right) =
      (r.followedBy (r.left ++ r.right)).map f := by
  rw [← followedBy_map, List.map_append]
  rfl

theorem split_map (r : Remains α) (xs : List α) (n : Nat)
    : (r.map f).split (xs.map f) n = Prod.map (List.map f) (List.map f) (r.split xs n) := by
  unfold split map
  dsimp only
  split
  . rw [Prod.map, List.map_reverse, List.map_take, List.map_drop]
  . rw [Prod.map, List.length_map, List.map_take, List.map_drop]

theorem takeLeft_map (r : Remains α) (n : Nat) : (r.map f).takeLeft n = (r.takeLeft n).map f := by
  have hsplit : (r.map f).split (r.map f).left n = _ := r.split_map f r.left n
  unfold takeLeft
  rw [hsplit]
  unfold map
  simp only [Prod.map, List.map_append]

theorem takeRight_map (r : Remains α) (n : Nat)
    : (r.map f).takeRight n = (r.takeRight n).map f := by
  have hsplit : (r.map f).split (r.map f).right n = _ := r.split_map f r.right n
  unfold takeRight
  rw [hsplit]
  unfold map
  simp only [Prod.map, List.map_append]

theorem heads?_map (r : Remains α) : (r.map f).heads? = r.heads?.map (Prod.map f f) := by
  unfold heads? map
  dsimp only
  split
  . rw [List.head?_map, List.head?_map]
    cases r.left.head? <;> cases r.right.head? <;> rfl
  . rw [List.getLast?_map, List.getLast?_map]
    cases r.left.getLast? <;> cases r.right.getLast? <;> rfl

theorem finish?_map (r : Remains α) : (r.map f).finish? = r.finish?.map (List.map f) := by
  obtain ⟨atFront, left, right, merged⟩ := r
  -- the patterns of the definition overlap, so that both sides are taken apart until one of them
  -- fits
  match atFront, left, right with
  | true, [], right => exact congrArg some (followedBy_map f ⟨true, [], right, merged⟩ right)
  | false, [], right => exact congrArg some (followedBy_map f ⟨false, [], right, merged⟩ right)
  | true, x :: xs, [] =>
    exact congrArg some (followedBy_map f ⟨true, x :: xs, [], merged⟩ (x :: xs))
  | false, x :: xs, [] =>
    exact congrArg some (followedBy_map f ⟨false, x :: xs, [], merged⟩ (x :: xs))
  | true, [x], y :: ys =>
    have h := followedBy_map f ⟨true, [x], y :: ys, merged⟩ (y :: ys ++ [x])
    rw [List.map_append] at h
    exact congrArg some h
  | false, x :: xs, [y] =>
    have h := congrArg some (followedBy_map f ⟨false, x :: xs, [y], merged⟩ (y :: x :: xs))
    cases xs <;> exact h
  | true, x :: x' :: xs, y :: ys => cases ys <;> rfl
  | false, x :: xs, y :: y' :: ys => cases xs <;> rfl

theorem leftStretch_map (r : Remains α) (y : α)
    : (r.map f).leftStretch less (f y) = r.leftStretch (onFun less f) y := by
  unfold leftStretch map
  dsimp only
  rw [countNotGreater_map, countNotGreater_map, List.length_map]

theorem rightStretch_map (r : Remains α) (x : α)
    : (r.map f).rightStretch less (f x) = r.rightStretch (onFun less f) x := by
  unfold rightStretch map
  dsimp only
  rw [countLess_map, countLess_map, List.length_map]

end Remains

theorem mergeRemains_image (fuel patience : Nat) (phase : Phase) (r : Remains α)
    : IsImage (Prod.map (List.map f) id) (mergeRemains (onFun less f) fuel patience phase r)
        (mergeRemains less fuel patience phase (r.map f)) := by
  -- each phase looks at the remains through a comparison, and goes on with remains whose image is
  -- the same
  induction fuel generalizing patience phase r with
  | zero => exact image_ok (Prod.ext (r.followedBy_rest_map f) rfl)
  | succ fuel ih =>
    unfold mergeRemains
    rw [Remains.finish?_map, Remains.heads?_map]
    cases r.finish? with
    | some done => exact image_ok rfl
    | none =>
      cases r.heads? with
      | none => exact image_ok (Prod.ext (r.followedBy_rest_map f) rfl)
      | some heads =>
        obtain ⟨x, y⟩ := heads
        dsimp only [Option.map, Prod.map]
        cases phase with
        | single leftWins rightWins =>
          refine image_then fun c => ?_
          have hside : (r.map f).atFront = r.atFront := rfl
          rw [hside, Remains.takeRight_map, Remains.takeLeft_map, ← apply_ite (Remains.map f)]
          split
          . split
            . exact ih _ _ _
            . exact ih _ _ _
          . split
            . exact ih _ _ _
            . exact ih _ _ _
        | leftStretch =>
          rw [Remains.leftStretch_map]
          refine image_then fun n => ?_
          rw [Remains.takeLeft_map]
          exact ih _ _ _
        | oneRight n =>
          rw [Remains.takeRight_map]
          exact ih _ _ _
        | rightStretch n =>
          rw [Remains.rightStretch_map]
          refine image_then fun m => ?_
          rw [Remains.takeRight_map]
          exact ih _ _ _
        | oneLeft n m =>
          dsimp only
          rw [Remains.takeLeft_map, Remains.finish?_map]
          cases (r.takeLeft 1).finish? with
          | some done => exact image_ok rfl
          | none =>
            dsimp only [Option.map]
            split
            . exact ih _ _ _
            . exact ih _ _ _

theorem merge_image (patience : Nat) (left right : List α)
    : IsImage (Prod.map (List.map f) id) (merge (onFun less f) patience left right)
        (merge less patience (left.map f) (right.map f)) := by
  unfold merge
  rw [List.head?_map]
  cases right.head? with
  | none => exact image_ok rfl
  | some y =>
    dsimp only [Option.map]
    rw [countNotGreater_map]
    refine image_then fun n => ?_
    rw [← List.map_drop, ← List.map_take, List.getLast?_map]
    cases (left.drop n).getLast? with
    | none => exact image_ok (Prod.ext (List.map_append ..).symm rfl)
    | some x =>
      dsimp only [Option.map]
      rw [countLess_map, List.length_map]
      refine image_then fun m => ?_
      rw [← List.map_drop, ← List.map_take, List.isEmpty_map]
      split
      . refine image_ok (Prod.ext ?_ rfl)
        rw [Prod.map, List.map_append, List.map_append]
      . have hright : Remains.takeRight ⟨true, (left.drop n).map f, (right.take m).map f, []⟩ 1
            = (Remains.takeRight ⟨true, left.drop n, right.take m, []⟩ 1).map f :=
          Remains.takeRight_map f ⟨true, left.drop n, right.take m, []⟩ 1
        have hleft : Remains.takeLeft ⟨false, (left.drop n).map f, (right.take m).map f, []⟩ 1
            = (Remains.takeLeft ⟨false, left.drop n, right.take m, []⟩ 1).map f :=
          Remains.takeLeft_map f ⟨false, left.drop n, right.take m, []⟩ 1
        rw [hright, hleft, List.length_map, List.length_map, ← apply_ite (Remains.map f)]
        refine image_bind (mergeRemains_image less f _ _ _ _) fun merged =>
          image_ok (Prod.ext ?_ rfl)
        simp only [Prod.map, List.map_append]

def Run.map (r : Run α) : Run β := ⟨r.items.map f, r.start, r.depth⟩

theorem joinTop_image (patience : Nat) (runs : List (Run α))
    : IsImage (Prod.map (List.map (Run.map f)) id) (joinTop (onFun less f) patience runs)
        (joinTop less patience (runs.map (Run.map f))) := by
  match runs with
  | [] => exact image_ok rfl
  | [run] => exact image_ok rfl
  | b :: a :: rest =>
    exact image_bind (merge_image less f patience a.items b.items) fun merged => image_ok rfl

theorem joinBelowTop_image (patience : Nat) (runs : List (Run α))
    : IsImage (Prod.map (List.map (Run.map f)) id) (joinBelowTop (onFun less f) patience runs)
        (joinBelowTop less patience (runs.map (Run.map f))) := by
  match runs with
  | [] => exact image_ok rfl
  | c :: rest => exact image_bind (joinTop_image less f patience rest) fun r => image_ok rfl

theorem joinDeeper_image (limit fuel patience : Nat) (runs : List (Run α))
    : IsImage (Prod.map (List.map (Run.map f)) id)
      (joinDeeper (onFun less f) limit fuel runs patience)
        (joinDeeper less limit fuel (runs.map (Run.map f)) patience) := by
  induction fuel generalizing patience runs with
  | zero => exact image_ok rfl
  | succ fuel ih =>
    match runs with
    | [] => exact image_ok rfl
    | [run] => exact image_ok rfl
    | b :: a :: rest =>
      rw [joinDeeper]
      change IsImage _ _ (if limit < a.depth then _ else _)
      split
      . exact image_bind (joinTop_image less f patience (b :: a :: rest)) fun r => ih r.2 r.1
      . exact image_ok rfl

theorem flatMap_items_map (runs : List (Run α))
    : (runs.map (Run.map f)).flatMap (·.items) = (runs.flatMap (·.items)).map f := by
  rw [List.map_flatMap, List.flatMap_map]
  rfl

theorem joinAll_image (fuel patience : Nat) (runs : List (Run α))
    : IsImage (List.map f) (joinAll (onFun less f) fuel runs patience)
        (joinAll less fuel (runs.map (Run.map f)) patience) := by
  induction fuel generalizing patience runs with
  | zero =>
    refine image_ok ?_
    rw [← List.map_reverse, flatMap_items_map]
  | succ fuel ih =>
    match runs with
    | [] => exact image_ok rfl
    | [run] => exact image_ok (flatMap_items_map f [run])
    | [b, a] => exact image_bind (joinTop_image less f patience [b, a]) fun r => ih r.2 r.1
    | c :: b :: a :: rest =>
      have hlengths : (Run.map f a).items.length < (Run.map f c).items.length ↔
          a.items.length < c.items.length := by
        rw [Run.map, Run.map, List.length_map, List.length_map]
      unfold joinAll
      dsimp only [List.map]
      simp only [hlengths]
      split
      . exact image_bind (joinBelowTop_image less f patience (c :: b :: a :: rest)) fun r =>
          ih r.2 r.1
      . exact image_bind (joinTop_image less f patience (c :: b :: a :: rest)) fun r => ih r.2 r.1

theorem sortRest_image (total fuel patience start : Nat) (runs : List (Run α)) (xs : List α)
    : IsImage (List.map f) (sortRest (onFun less f) total fuel runs patience start xs)
        (sortRest less total fuel (runs.map (Run.map f)) patience start (xs.map f)) := by
  induction fuel generalizing patience start runs xs with
  | zero =>
    rw [sortRest, sortRest, List.length_map]
    exact joinAll_image less f _ _ _
  | succ fuel ih =>
    rw [sortRest, sortRest, List.length_map, List.isEmpty_map]
    split
    . exact joinAll_image less f _ _ _
    . refine image_bind (takeRun_image less f _ xs) fun r => ?_
      -- whichever runs are joined, the rest is sorted in the same way
      have hnext : ∀ (joined : List (Run α)) (patience : Nat),
          IsImage (List.map f)
            (sortRest (onFun less f) total fuel (⟨r.1, start, 0⟩ :: joined) patience
              (start + r.1.length) r.2)
            (sortRest less total fuel (⟨r.1.map f, start, 0⟩ :: joined.map (Run.map f)) patience
              (start + (r.1.map f).length) (r.2.map f)) := by
        intro joined patience
        rw [List.length_map]
        exact ih patience _ (⟨r.1, start, 0⟩ :: joined) r.2
      cases runs with
      | nil => exact hnext [] patience
      | cons top rest =>
        have hdepth : depth total (Run.map f top).start (Run.map f top).items.length
          (r.1.map f).length
            = depth total top.start top.items.length r.1.length := by
          rw [Run.map, List.length_map, List.length_map]
        rw [List.map_cons]
        dsimp only [Prod.map]
        rw [hdepth]
        refine image_bind (joinDeeper_image less f _ _ _ (top :: rest)) fun s => ?_
        obtain ⟨joined, patience'⟩ := s
        cases joined with
        | nil => exact hnext [] patience'
        | cons below rest' => exact hnext ({ below with depth := _ } :: rest') patience'

theorem sort_image (xs : List α)
    : sort less (xs.map f) = (sort (onFun less f) xs).map (List.map f) := by
  unfold sort
  rw [List.length_map]
  exact sortRest_image less f _ _ _ _ [] xs

end

end DocStore.StableSort
