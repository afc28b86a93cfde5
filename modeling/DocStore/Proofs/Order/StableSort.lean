import DocStore.Order.StableSort
import DocStore.Proofs.Order.StableSort.Merge

/-!
This module contains the proof that the stable sort answers with a permutation of the list that is
in order. Elements are only ever compared with those before them in the list, so that an order that
tells equal elements apart by their places is kept.
-/

namespace DocStore.StableSort

open Work

section

variable {ε α : Type} {less : α → α → Except ε Bool} {Earlier Before : α → α → Prop} {Q : ε → Prop}

def elements (runs : List (Run α)) : List α := runs.flatMap (·.items)

inductive IsStack (Earlier Before : α → α → Prop) : List (Run α) → Prop where
  | nil : IsStack Earlier Before []
  | cons {top : Run α} {runs : List (Run α)} (sorted : top.items.Pairwise Before)
      (apart : ∀ x ∈ elements runs, ∀ y ∈ top.items, Earlier x y)
      (below : IsStack Earlier Before runs)
      : IsStack Earlier Before (top :: runs)

structure IsJoined (Earlier Before : α → α → Prop) (runs joined : List (Run α)) : Prop where
  perm : (elements joined).Perm (elements runs)
  stack : IsStack Earlier Before joined

theorem joinTop_ends (hless : Tells less Earlier Before Q) (patience : Nat) {runs : List (Run α)}
    (h : IsStack Earlier Before runs)
    : Ends (joinTop less patience runs)
        (fun r => IsJoined Earlier Before runs r.1 ∧ (2 ≤ runs.length → r.1.length < runs.length))
          Q := by
  unfold joinTop
  split
  next b a rest =>
    cases h with
    | cons hb hapart h =>
      cases h with
      | cons ha hapart' h =>
        have hab : ∀ x ∈ a.items, ∀ y ∈ b.items, Earlier x y :=
          fun x hx => hapart x (List.mem_append_left _ hx)
        refine ends_bind (merge_ends hless patience ha hb hab) fun merged hmerged =>
          ends_ok ⟨⟨?_, ?_⟩, ?_⟩
        . calc (merged.1 ++ elements rest).Perm (a.items ++ b.items ++ elements rest) :=
            hmerged.1.append_right _
            _ |>.Perm (b.items ++ a.items ++ elements rest) := List.perm_append_comm.append_right _
            _ = elements (b :: a :: rest) := List.append_assoc ..
        . refine .cons hmerged.2 (fun x hx y hy => ?_) h
          rcases List.mem_append.mp (hmerged.1.mem_iff.mp hy) with hy | hy
          . exact hapart' x hx y hy
          . exact hapart x (List.mem_append_right _ hx) y hy
        . intro _
          simp
  next hshort =>
    refine ends_ok ⟨⟨.refl _, h⟩, fun htwo => ?_⟩
    match runs with
    | b :: a :: rest => exact absurd rfl (hshort b a rest)

theorem joinBelowTop_ends (hless : Tells less Earlier Before Q) (patience : Nat)
    {runs : List (Run α)} (h : IsStack Earlier Before runs)
    : Ends (joinBelowTop less patience runs)
        (fun r => IsJoined Earlier Before runs r.1 ∧ (3 ≤ runs.length → r.1.length < runs.length))
          Q := by
  cases h with
  | nil => exact ends_ok ⟨⟨.refl _, .nil⟩, nofun⟩
  | @cons c rest hc hapart h =>
    refine ends_bind (joinTop_ends hless patience h) fun r hr =>
      ends_ok ⟨⟨?_, ?_⟩, fun hthree => ?_⟩
    . exact hr.1.perm.append_left c.items
    . exact .cons hc (fun x hx => hapart x (hr.1.perm.mem_iff.mp hx)) hr.1.stack
    . rw [List.length_cons] at hthree
      exact Nat.succ_lt_succ (hr.2 (by omega))

theorem joinDeeper_ends (hless : Tells less Earlier Before Q) (limit fuel patience : Nat)
    {runs : List (Run α)} (h : IsStack Earlier Before runs)
    : Ends (joinDeeper less limit fuel runs patience)
      (fun r => IsJoined Earlier Before runs r.1) Q := by
  induction fuel generalizing runs patience with
  | zero => exact ends_ok ⟨.refl _, h⟩
  | succ fuel ih =>
    unfold joinDeeper
    split
    next =>
      split
      . refine ends_bind (joinTop_ends hless patience h) fun r hr => ?_
        exact (ih r.2 hr.1.stack).imp fun s hs => ⟨hs.perm.trans hr.1.perm, hs.stack⟩
      . exact ends_ok ⟨.refl _, h⟩
    next => exact ends_ok ⟨.refl _, h⟩

theorem joinAll_ends (hless : Tells less Earlier Before Q) {fuel : Nat} (patience : Nat)
    {runs : List (Run α)} (h : IsStack Earlier Before runs) (hfuel : runs.length ≤ fuel)
    : Ends (joinAll less fuel runs patience)
      (fun xs => xs.Perm (elements runs) ∧ xs.Pairwise Before) Q := by
  induction fuel generalizing runs patience with
  | zero =>
    rw [List.length_eq_zero_iff.mp (Nat.le_zero.mp hfuel)]
    exact ends_ok ⟨.refl _, .nil⟩
  | succ fuel ih =>
    -- each time there is one run less, so that the fuel lasts until one is left
    have hjoined : ∀ r : List (Run α) × Nat, IsJoined Earlier Before runs r.1 →
      r.1.length < runs.length →
        Ends (joinAll less fuel r.1 r.2)
            (fun xs => xs.Perm (elements runs) ∧ xs.Pairwise Before) Q := by
      intro r hr hlength
      exact (ih r.2 hr.stack (by omega)).imp fun xs hxs => ⟨hxs.1.trans hr.perm, hxs.2⟩
    unfold joinAll
    split
    next =>
      split
      . exact ends_bind (joinBelowTop_ends hless patience h) fun r hr =>
          hjoined r hr.1 (hr.2 (by simp))
      . exact ends_bind (joinTop_ends hless patience h) fun r hr => hjoined r hr.1 (hr.2 (by simp))
    next => exact ends_bind (joinTop_ends hless patience h) fun r hr =>
      hjoined r hr.1 (hr.2 (by simp))
    next hthree htwo =>
      match runs, h with
      | [], _ => exact ends_ok ⟨.refl _, .nil⟩
      | [run], .cons hrun _ _ => exact ends_ok ⟨.refl _, by simpa using hrun⟩
      | b :: a :: rest, _ => exact absurd rfl (htwo b a rest)

theorem sortRest_ends (hless : Tells less Earlier Before Q) (total : Nat) {fuel : Nat}
    (patience start : Nat) {runs : List (Run α)} {xs : List α} (hruns : IsStack Earlier Before runs)
    (hxs : xs.Pairwise Earlier) (hapart : ∀ x ∈ elements runs, ∀ y ∈ xs, Earlier x y)
    (hfuel : xs.length ≤ fuel)
    : Ends (sortRest less total fuel runs patience start xs)
        (fun ys => ys.Perm (elements runs ++ xs) ∧ ys.Pairwise Before) Q := by
  induction fuel generalizing runs patience start xs with
  | zero =>
    rw [List.length_eq_zero_iff.mp (Nat.le_zero.mp hfuel), List.append_nil]
    exact joinAll_ends hless _ hruns (Nat.le_refl _)
  | succ fuel ih =>
    unfold sortRest
    split
    next hnil =>
      rw [List.isEmpty_iff.mp hnil, List.append_nil]
      exact joinAll_ends hless _ hruns (Nat.le_refl _)
    next hne =>
      rw [List.isEmpty_iff] at hne
      refine ends_bind (takeRun_ends hless _ hxs) fun r hr => ?_
      have hlength := hr.perm.length_eq
      rw [List.length_append] at hlength
      -- the run that is cut off is not empty, so that the fuel lasts for the rest
      have hpos : 0 < r.1.length := List.length_pos_iff.mpr (hr.nonempty hne)
      have hmem : ∀ x, x ∈ r.1 ∨ x ∈ r.2 → x ∈ xs :=
        fun x hx => hr.perm.mem_iff.mp (List.mem_append.mpr hx)
      have hjoined : ∀ (joined : List (Run α)) (patience : Nat),
        IsJoined Earlier Before runs joined →
          Ends
            (sortRest less total fuel (⟨r.1, start, 0⟩ :: joined) patience (start + r.1.length) r.2)
            (fun ys => ys.Perm (elements runs ++ xs) ∧ ys.Pairwise Before) Q := by
        intro joined patience hjoined
        have hbelow : ∀ x ∈ elements joined, ∀ y ∈ xs, Earlier x y := fun x hx =>
          hapart x (hjoined.perm.mem_iff.mp hx)
        have hstack : IsStack Earlier Before (⟨r.1, start, 0⟩ :: joined) :=
          .cons hr.sorted (fun x hx y hy => hbelow x hx y (hmem y (.inl hy))) hjoined.stack
        refine (ih patience _ hstack hr.rest (fun x hx y hy => ?_) (by omega)).imp fun ys hys =>
          ⟨?_, hys.2⟩
        . rcases List.mem_append.mp hx with hx | hx
          . exact hr.apart x hx y hy
          . exact hbelow x hx y (hmem y (.inr hy))
        . calc ys.Perm (r.1 ++ elements joined ++ r.2) := hys.1
            _ |>.Perm (elements joined ++ r.1 ++ r.2) := List.perm_append_comm.append_right _
            _ = elements joined ++ (r.1 ++ r.2) := List.append_assoc ..
            _ |>.Perm (elements runs ++ xs) := hjoined.perm.append hr.perm
      dsimp only
      cases runs with
      | nil => exact hjoined [] patience ⟨.refl _, .nil⟩
      | cons top rest =>
        refine ends_bind (joinDeeper_ends hless _ _ patience hruns) fun s hs => ?_
        obtain ⟨joined, patience'⟩ := s
        cases joined with
        | nil => exact hjoined [] patience' hs
        | cons below rest' =>
          refine hjoined ({ below with depth := _ } :: rest') patience' ⟨hs.perm, ?_⟩
          cases hs.stack with
          | cons hsorted hapart hstack => exact .cons hsorted hapart hstack

theorem sort_ends (hless : Tells less Earlier Before Q) {xs : List α} (h : xs.Pairwise Earlier)
    : Ends (sort less xs) (fun ys => ys.Perm xs ∧ ys.Pairwise Before) Q :=
  sortRest_ends hless _ _ _ .nil h (by simp [elements]) (Nat.le_refl _)

def Decides (less : α → α → Except ε Bool) (P : α → Prop) : Prop :=
  ∀ a b, P a → P b → Answers (less a b) fun _ => True

theorem sort_answers {P : α → Prop} (hless : Decides less P) {xs : List α} (h : ∀ x ∈ xs, P x)
    : Answers (sort less xs) fun ys => ys.Perm xs := by
  have htells : Tells less (fun a b => P a ∧ P b) (fun _ _ => True) fun _ => False := by
    refine ⟨fun _ _ => trivial, fun {a b} hab => ?_⟩
    obtain ⟨c, hc, _⟩ := hless b a hab.2 hab.1
    rw [hc]
    exact ends_ok (by split <;> trivial)
  have hpairs : xs.Pairwise fun a b => P a ∧ P b :=
    List.pairwise_of_forall_mem_list fun a ha b hb => ⟨h a ha, h b hb⟩
  obtain ⟨ys, hys, hperm, _⟩ := (sort_ends htells hpairs).answers
  exact ⟨ys, hys, hperm⟩

end

end DocStore.StableSort
