import DocStore.Order.StableSort.Gallop
import DocStore.Proofs.Work

/-!
This module contains the proof that the search for a place in a list finds it: the elements before
it are on one side of a boundary, and those from it on are on the other one.
-/

namespace DocStore.StableSort

open Work

section

variable {ε α : Type} {Q : ε → Prop}

section

variable {passes : Nat → Except ε Bool} {A B : Nat → Prop}

theorem bisect_ends (hpasses : ∀ i, Ends (passes i) (fun c => if c then A (i + 1) else B i) Q)
    (hmono : ∀ {m n}, m ≤ n → A n → A m) {first last : Nat} (hfirst : A first) (hlast : B last)
    : Ends (bisect passes first last) (fun n => A n ∧ B n) Q := by
  induction hgap : last - first using Nat.strongRecOn generalizing first last with
  | ind n ih =>
    rw [bisect]
    split
    next hlt =>
      refine ends_bind (hpasses _) fun c hc => ?_
      cases c with
      | true => exact ih _ (by omega) hc hlast rfl
      | false => exact ih _ (by omega) hfirst hc rfl
    next hge => exact ends_ok ⟨hmono (by omega) hfirst, hlast⟩

theorem stride_ends (hpasses : ∀ i, Ends (passes i) (fun c => if c then A i else B i) Q)
    {bound : Nat} (passed step : Nat) (hpassed : A passed) (hbound : B bound)
    : Ends (stride passes bound passed step) (fun r => A r.1 ∧ B r.2) Q := by
  induction hgap : bound - step using Nat.strongRecOn generalizing passed step with
  | ind n ih =>
    rw [stride]
    split
    next hlt =>
      refine ends_bind (hpasses _) fun c hc => ?_
      cases c with
      | true => exact ih _ (by omega) _ _ hc rfl
      | false => exact ends_ok ⟨hpassed, hc⟩
    next => exact ends_ok ⟨hpassed, hbound⟩

end

def AllBefore (Low : α → Prop) (xs : List α) (n : Nat) : Prop := ∀ x ∈ xs.take n, Low x

def AllFrom (High : α → Prop) (xs : List α) (n : Nat) : Prop := ∀ x ∈ xs.drop n, High x

structure IsBoundary (Low High : α → Prop) (xs : List α) (n : Nat) : Prop where
  low : AllBefore Low xs n
  high : AllFrom High xs n

theorem AllBefore.mono {Low : α → Prop} {xs : List α} {m n : Nat} (hmn : m ≤ n)
    (h : AllBefore Low xs n)
    : AllBefore Low xs m := fun x hx => h x ((List.take_sublist_take_left hmn).subset hx)

theorem allBefore_zero (Low : α → Prop) (xs : List α) : AllBefore Low xs 0 := nofun

theorem allFrom_length (High : α → Prop) (xs : List α) {n : Nat} (h : xs.length ≤ n)
    : AllFrom High xs n := by
  unfold AllFrom
  rw [List.drop_eq_nil_iff.mpr h]
  nofun

theorem gallop_ends {passes : α → Except ε Bool} {Low High : α → Prop} {xs : List α}
    (hsides : xs.Pairwise fun a b => (Low b → Low a) ∧ (High a → High b))
    (hpasses : ∀ x ∈ xs, Ends (passes x) (fun c => if c then Low x else High x) Q) (guess : Nat)
    : Ends (gallop passes xs.toArray guess) (IsBoundary Low High xs) Q := by
  -- a test of one element settles the side of all elements before it, or of all from it on
  have hat : ∀ i, Ends (gallop.at? passes xs.toArray i)
      (fun c => if c then AllBefore Low xs (i + 1) else AllFrom High xs i) Q := by
    intro i
    unfold gallop.at?
    rw [List.getElem?_toArray]
    split
    next x hx =>
      obtain ⟨hi, hx⟩ := List.getElem?_eq_some_iff.mp hx
      refine (hpasses x (hx ▸ List.getElem_mem hi)).imp fun c hc => ?_
      have hdrop : xs.drop i = x :: xs.drop (i + 1) := by rw [List.drop_eq_getElem_cons hi, hx]
      rw [← List.take_append_drop i xs, hdrop] at hsides
      obtain ⟨_, hafter, hacross⟩ := List.pairwise_append.mp hsides
      cases c with
      | true =>
        intro y hy
        rw [List.take_add_one, List.getElem?_eq_getElem hi, hx] at hy
        rcases List.mem_append.mp hy with hy | hy
        . exact (hacross y hy x (List.mem_cons_self ..)).1 hc
        . rw [Option.toList_some, List.mem_singleton] at hy
          exact hy ▸ hc
      | false =>
        intro y hy
        rw [hdrop] at hy
        rcases List.mem_cons.mp hy with rfl | hy
        . exact hc
        . exact (List.rel_of_pairwise_cons hafter hy).2 hc
    next hnone => exact ends_ok (allFrom_length High xs (List.getElem?_eq_none_iff.mp hnone))
  have hbisect : ∀ {first last : Nat}, AllBefore Low xs first → AllFrom High xs last →
      Ends (bisect (gallop.at? passes xs.toArray) first last) (IsBoundary Low High xs) Q :=
    fun hfirst hlast => (bisect_ends hat AllBefore.mono hfirst hlast).imp fun _ hn => ⟨hn.1, hn.2⟩
  unfold gallop
  refine ends_bind (hat guess) fun c hc => ?_
  cases c with
  | true =>
    have hend : AllFrom High xs (guess + (xs.toArray.size - guess)) := allFrom_length High xs (by
      rw [List.size_toArray]
      omega)
    have hstride := stride_ends (A := fun s => AllBefore Low xs (guess + s + 1))
      (B := fun s => AllFrom High xs (guess + s)) (fun s => hat (guess + s)) 0 1 hc hend
    exact ends_bind hstride fun r hr => hbisect hr.1 hr.2
  | false =>
    have hend : AllBefore Low xs (guess + 1 - (guess + 1)) := by
      rw [Nat.sub_self]
      exact allBefore_zero Low xs
    have hback : ∀ s, Ends (do return !(← gallop.at? passes xs.toArray (guess - s)) : Except ε Bool)
        (fun c => if c then AllFrom High xs (guess - s) else AllBefore Low xs (guess + 1 - s))
            Q := by
      intro s
      refine ends_bind (hat (guess - s)) fun c hc => ends_ok ?_
      cases c with
      | true => exact AllBefore.mono (by omega) hc
      | false => exact hc
    have hstride := stride_ends (A := fun s => AllFrom High xs (guess - s))
      (B := fun s => AllBefore Low xs (guess + 1 - s)) hback 0 1 hc hend
    exact ends_bind hstride fun r hr => hbisect hr.2 hr.1

end

end DocStore.StableSort
