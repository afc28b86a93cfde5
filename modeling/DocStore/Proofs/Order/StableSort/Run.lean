import Mathlib.Data.List.Perm.Basic
import DocStore.Order.StableSort.Run
import DocStore.Proofs.Work

/-!
This module contains the proof that runs are cut off a list without a loss, and that every run is in
order. A later element is only ever compared with an earlier one.
-/

namespace DocStore.StableSort

open Work

structure Tells {ε α : Type} (less : α → α → Except ε Bool) (Earlier Before : α → α → Prop)
    (Q : ε → Prop) : Prop where
  trans : ∀ {a b c}, Before a b → Before b c → Before a c
  ends : ∀ {a b}, Earlier a b → Ends (less b a) (fun c => if c then Before b a else Before a b) Q

structure IsCut {α : Type} (Earlier Before : α → α → Prop) (xs run rest : List α) : Prop where
  perm : (run ++ rest).Perm xs
  sorted : run.Pairwise Before
  apart : ∀ x ∈ run, ∀ y ∈ rest, Earlier x y
  rest : rest.Pairwise Earlier
  nonempty : xs ≠ [] → run ≠ []

section

variable {ε α : Type} {less : α → α → Except ε Bool} {Earlier Before : α → α → Prop} {Q : ε → Prop}

theorem pairwise_cons_of_head {R : α → α → Prop} {x y : α} {xs : List α} (h : xs.Pairwise R)
    (hhead : xs.head? = some y) (hxy : R x y) (htrans : ∀ {a b c}, R a b → R b c → R a c)
    : (x :: xs).Pairwise R := by
  obtain ⟨ys, rfl⟩ := List.head?_eq_some_iff.mp hhead
  refine List.pairwise_cons.mpr ⟨?_, h⟩
  intro z hz
  rcases List.mem_cons.mp hz with rfl | hz
  . exact hxy
  . exact htrans hxy (List.rel_of_pairwise_cons h hz)

theorem ascendingRun_ends (hless : Tells less Earlier Before Q) {x : α} {ys : List α}
    (h : (x :: ys).Pairwise Earlier)
    : Ends (ascendingRun less x ys)
        (fun r => r.1 ++ r.2 = x :: ys ∧ r.1.Pairwise Before ∧ r.1.head? = some x) Q := by
  induction ys generalizing x with
  | nil => exact ends_ok ⟨rfl, List.pairwise_singleton .., rfl⟩
  | cons y ys ih =>
    refine ends_bind (hless.ends (List.rel_of_pairwise_cons h (List.mem_cons_self ..))) fun b hb =>
      ?_
    cases b with
    | true => exact ends_ok ⟨rfl, List.pairwise_singleton .., rfl⟩
    | false =>
      refine ends_bind (ih h.tail) fun r hr => ends_ok ⟨?_, ?_, rfl⟩
      . rw [List.cons_append, hr.1]
      . exact pairwise_cons_of_head hr.2.1 hr.2.2 hb hless.trans

theorem descendingRun_ends (hless : Tells less Earlier Before Q) {x : α} {ys : List α}
    (h : (x :: ys).Pairwise Earlier)
    : Ends (descendingRun less x ys)
        (fun r => r.1 ++ r.2 = x :: ys ∧ r.1.Pairwise (fun a b => Before b a) ∧ r.1.head? = some x)
          Q := by
  induction ys generalizing x with
  | nil => exact ends_ok ⟨rfl, List.pairwise_singleton .., rfl⟩
  | cons y ys ih =>
    refine ends_bind (hless.ends (List.rel_of_pairwise_cons h (List.mem_cons_self ..))) fun b hb =>
      ?_
    cases b with
    | true =>
      refine ends_bind (ih h.tail) fun r hr => ends_ok ⟨?_, ?_, rfl⟩
      . rw [List.cons_append, hr.1]
      . exact pairwise_cons_of_head hr.2.1 hr.2.2 hb fun hab hbc => hless.trans hbc hab
    | false => exact ends_ok ⟨rfl, List.pairwise_singleton .., rfl⟩

theorem leadingRun_ends (hless : Tells less Earlier Before Q) {xs : List α}
    (h : xs.Pairwise Earlier)
    : Ends (leadingRun less xs) (fun r => IsCut Earlier Before xs r.1 r.2) Q := by
  match xs with
  | [] => exact ends_ok ⟨.refl _, .nil, by simp, .nil, fun h => h⟩
  | [x] => exact ends_ok ⟨.refl _, List.pairwise_singleton .., by simp, .nil, nofun⟩
  | x :: y :: rest =>
    have hcut : ∀ {run tail : List α}, run ++ tail = x :: y :: rest →
        tail.Pairwise Earlier ∧ ∀ x ∈ run, ∀ y ∈ tail, Earlier x y := by
      intro run tail hsplit
      rw [← hsplit] at h
      exact (List.pairwise_append.mp h).2
    refine ends_bind (hless.ends (List.rel_of_pairwise_cons h (List.mem_cons_self ..))) fun b hb =>
      ?_
    cases b with
    | true =>
      refine ends_bind (descendingRun_ends hless h.tail) fun r hr => ends_ok ?_
      obtain ⟨hsplit, hsorted, hhead⟩ := hr
      have hsplit : x :: r.1 ++ r.2 = x :: y :: rest := by rw [List.cons_append, hsplit]
      refine ⟨hsplit ▸ (List.reverse_perm _).append_right _, ?_, ?_, (hcut hsplit).1, by simp⟩
      . exact List.pairwise_reverse.mpr
          (pairwise_cons_of_head hsorted hhead hb fun hab hbc => hless.trans hbc hab)
      . intro z hz
        exact (hcut hsplit).2 z (List.mem_reverse.mp hz)
    | false =>
      refine ends_bind (ascendingRun_ends hless h.tail) fun r hr => ends_ok ?_
      obtain ⟨hsplit, hsorted, hhead⟩ := hr
      have hsplit : x :: r.1 ++ r.2 = x :: y :: rest := by rw [List.cons_append, hsplit]
      exact ⟨.of_eq hsplit, pairwise_cons_of_head hsorted hhead hb hless.trans, (hcut hsplit).2,
        (hcut hsplit).1, nofun⟩

theorem insert_ends (hless : Tells less Earlier Before Q) {pivot : α} {xs : List α}
    (hsorted : xs.Pairwise Before) (hpivot : ∀ x ∈ xs, Earlier x pivot)
    : Ends (insert less pivot xs) (fun ys => ys.Perm (pivot :: xs) ∧ ys.Pairwise Before) Q := by
  induction hlength : xs.length using Nat.strongRecOn generalizing xs with
  | ind n ih =>
    -- both halves are shorter, as the element in the middle belongs to neither
    have hsplit := List.take_append_drop (xs.length / 2) xs
    rw [insert]
    split
    next hdrop =>
      have hnil : xs = [] := by
        rw [List.drop_eq_nil_iff] at hdrop
        exact List.length_eq_zero_iff.mp (by omega)
      rw [hnil]
      exact ends_ok ⟨.refl _, List.pairwise_singleton ..⟩
    next x upper hdrop =>
      rw [hdrop] at hsplit
      generalize xs.take (xs.length / 2) = lower at hsplit
      subst hsplit
      rw [List.length_append, List.length_cons] at hlength
      obtain ⟨hlower, hupper, hacross⟩ := List.pairwise_append.mp hsorted
      refine ends_bind (hless.ends (hpivot x (by simp))) fun b hb => ?_
      cases b with
      | true =>
        refine ends_bind
          (ih _ (by omega) hlower (fun y hy => hpivot y (List.mem_append_left _ hy)) rfl)
          fun ys hys => ends_ok ⟨hys.1.append_right _, ?_⟩
        refine List.pairwise_append.mpr ⟨hys.2, hupper, fun y hy z hz => ?_⟩
        rcases List.mem_cons.mp (hys.1.mem_iff.mp hy) with rfl | hy
        . rcases List.mem_cons.mp hz with rfl | hz
          . exact hb
          . exact hless.trans hb (List.rel_of_pairwise_cons hupper hz)
        . exact hacross y hy z hz
      | false =>
        refine ends_bind (ih _ (by omega) hupper.tail (fun y hy => hpivot y (by simp [hy])) rfl)
          fun ys hys => ends_ok ⟨?_, ?_⟩
        . calc (lower ++ x :: ys).Perm (lower ++ x :: pivot :: upper) :=
            (hys.1.cons x).append_left _
            _ |>.Perm (lower ++ pivot :: x :: upper) := (List.Perm.swap ..).append_left _
            _ |>.Perm (pivot :: (lower ++ x :: upper)) := List.perm_middle
        . have hx : ∀ y ∈ ys, Before x y := by
            intro y hy
            rcases List.mem_cons.mp (hys.1.mem_iff.mp hy) with rfl | hy
            . exact hb
            . exact List.rel_of_pairwise_cons hupper hy
          refine List.pairwise_append.mpr
            ⟨hlower, List.pairwise_cons.mpr ⟨hx, hys.2⟩, fun y hy z hz => ?_⟩
          have hyx : Before y x := hacross y hy x (List.mem_cons_self ..)
          rcases List.mem_cons.mp hz with rfl | hz
          . exact hyx
          . exact hless.trans hyx (hx z hz)

theorem insertAll_ends (hless : Tells less Earlier Before Q) {sorted xs : List α}
    (hsorted : sorted.Pairwise Before) (hapart : ∀ x ∈ sorted, ∀ y ∈ xs, Earlier x y)
    (h : xs.Pairwise Earlier)
    : Ends (insertAll less sorted xs) (fun ys => ys.Perm (sorted ++ xs) ∧ ys.Pairwise Before)
      Q := by
  induction xs generalizing sorted with
  | nil =>
    rw [List.append_nil]
    exact ends_ok ⟨.refl _, hsorted⟩
  | cons x xs ih =>
    refine ends_bind (insert_ends hless hsorted fun y hy => hapart y hy x (List.mem_cons_self ..))
      fun ys hys => ?_
    have hapart' : ∀ y ∈ ys, ∀ z ∈ xs, Earlier y z := by
      intro y hy z hz
      rcases List.mem_cons.mp (hys.1.mem_iff.mp hy) with rfl | hy
      . exact List.rel_of_pairwise_cons h hz
      . exact hapart y hy z (List.mem_cons_of_mem _ hz)
    refine (ih hys.2 hapart' h.tail).imp fun zs hzs => ⟨?_, hzs.2⟩
    calc zs.Perm (ys ++ xs) := hzs.1
      _ |>.Perm (x :: sorted ++ xs) := hys.1.append_right _
      _ |>.Perm (sorted ++ x :: xs) := List.perm_middle.symm

theorem takeRun_ends (hless : Tells less Earlier Before Q) (least : Nat) {xs : List α}
    (h : xs.Pairwise Earlier)
    : Ends (takeRun less least xs) (fun r => IsCut Earlier Before xs r.1 r.2) Q := by
  refine ends_bind (leadingRun_ends hless h) fun r hr => ?_
  have htake := List.take_append_drop (least - r.1.length) r.2
  refine ends_bind (insertAll_ends hless hr.sorted
    (fun x hx y hy => hr.apart x hx y (List.mem_of_mem_take hy))
      (hr.rest.sublist (List.take_sublist ..)))
    fun ys hys => ends_ok ⟨?_, hys.2, ?_, hr.rest.sublist (List.drop_sublist ..), ?_⟩
  . calc (ys ++ r.2.drop (least - r.1.length)).Perm
          (r.1 ++ r.2.take (least - r.1.length) ++ r.2.drop (least - r.1.length)) :=
            hys.1.append_right _
      _ = r.1 ++ r.2 := by rw [List.append_assoc, htake]
      _ |>.Perm xs := hr.perm
  . intro x hx y hy
    rcases List.mem_append.mp (hys.1.mem_iff.mp hx) with hx | hx
    . exact hr.apart x hx y (List.mem_of_mem_drop hy)
    . rw [← htake] at hr
      exact (List.pairwise_append.mp hr.rest).2.2 x hx y hy
  . intro hxs hnil
    have hys := hys.1
    rw [show ys = [] from hnil] at hys
    exact hr.nonempty hxs (List.append_eq_nil_iff.mp hys.nil_eq.symm).1

end

end DocStore.StableSort
