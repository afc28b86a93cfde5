import DocStore.Order.StableSort.Merge
import DocStore.Proofs.Order.StableSort.Gallop
import DocStore.Proofs.Order.StableSort.Run

/-!
This module contains the proof that two runs in order are merged into one, without a loss. Elements
of the right run are only ever compared with those of the left one.
-/

namespace DocStore.StableSort

open Work

section

variable {ε α : Type} {less : α → α → Except ε Bool} {Earlier Before : α → α → Prop} {Q : ε → Prop}

abbrev IsPlace (Before : α → α → Prop) (key : α) (xs : List α) (n : Nat) : Prop :=
  IsBoundary (fun x => Before x key) (fun x => Before key x) xs n

theorem pairwise_sides (hless : Tells less Earlier Before Q) {xs : List α} (h : xs.Pairwise Before)
    (key : α)
    : xs.Pairwise fun a b => (Before b key → Before a key) ∧ (Before key a → Before key b) :=
  h.imp fun hab => ⟨hless.trans hab, fun hkey => hless.trans hkey hab⟩

theorem countLess_ends (hless : Tells less Earlier Before Q) {key : α} {xs : List α}
    (hsorted : xs.Pairwise Before)
    (h : ∀ x ∈ xs, Earlier key x) (guess : Nat)
    : Ends (countLess less key xs guess) (IsPlace Before key xs) Q :=
  gallop_ends (pairwise_sides hless hsorted key) (fun x hx => hless.ends (h x hx)) guess

theorem countNotGreater_ends (hless : Tells less Earlier Before Q) {key : α} {xs : List α}
    (hsorted : xs.Pairwise Before) (h : ∀ x ∈ xs, Earlier x key) (guess : Nat)
    : Ends (countNotGreater less key xs guess) (IsPlace Before key xs) Q := by
  refine gallop_ends (pairwise_sides hless hsorted key) (fun x hx => ?_) guess
  refine ends_bind (hless.ends (h x hx)) fun c hc => ends_ok ?_
  cases c with
  | true => exact hc
  | false => exact hc

namespace Remains

def elements (r : Remains α) : List α := r.left ++ r.right ++ r.merged

theorem split_perm (r : Remains α) (xs : List α) (n : Nat)
    : ((r.split xs n).1 ++ (r.split xs n).2).Perm xs := by
  unfold split
  split
  . calc ((xs.take n).reverse ++ xs.drop n).Perm (xs.take n ++ xs.drop n) :=
      (List.reverse_perm _).append_right _
      _ = xs := List.take_append_drop ..
  . calc (xs.drop (xs.length - n) ++ xs.take (xs.length - n)).Perm
          (xs.take (xs.length - n) ++ xs.drop (xs.length - n)) := List.perm_append_comm
      _ = xs := List.take_append_drop ..

theorem takeLeft_perm (r : Remains α) (n : Nat) : (r.takeLeft n).elements.Perm r.elements := by
  have hsplit := r.split_perm r.left n
  unfold takeLeft elements
  dsimp only
  calc ((r.split r.left n).2 ++ r.right ++ ((r.split r.left n).1 ++ r.merged)).Perm
        ((r.split r.left n).1 ++ (r.split r.left n).2 ++ r.right ++ r.merged) := by
          rw [← List.append_assoc, List.append_assoc (r.split r.left n).1]
          exact List.perm_append_comm.append_right _
    _ |>.Perm (r.left ++ r.right ++ r.merged) := (hsplit.append_right _).append_right _

theorem takeRight_perm (r : Remains α) (n : Nat) : (r.takeRight n).elements.Perm r.elements := by
  have hsplit := r.split_perm r.right n
  unfold takeRight elements
  dsimp only
  calc (r.left ++ (r.split r.right n).2 ++ ((r.split r.right n).1 ++ r.merged)).Perm
        (r.left ++ ((r.split r.right n).1 ++ (r.split r.right n).2) ++ r.merged) := by
          rw [← List.append_assoc, List.append_assoc r.left]
          exact (List.perm_append_comm.append_left _).append_right _
    _ |>.Perm (r.left ++ r.right ++ r.merged) := (hsplit.append_left _).append_right _

theorem followedBy_perm (r : Remains α) {xs : List α} (h : xs.Perm (r.left ++ r.right))
    : (r.followedBy xs).Perm r.elements := by
  unfold followedBy elements
  split
  . calc (r.merged.reverse ++ xs).Perm (xs ++ r.merged.reverse) := List.perm_append_comm
      _ |>.Perm (xs ++ r.merged) := (List.reverse_perm _).append_left _
      _ |>.Perm (r.left ++ r.right ++ r.merged) := h.append_right _
  . exact h.append_right _

theorem split_length (r : Remains α) (xs : List α) (n : Nat)
    : (r.split xs n).2.length = xs.length - n := by
  unfold split
  split
  . exact List.length_drop
  . rw [List.length_take]
    omega

def Ahead (r : Remains α) (Before : α → α → Prop) (x y : α) : Prop :=
  if r.atFront then Before x y else Before y x

theorem ahead_front {r : Remains α} (h : r.atFront = true) : r.Ahead Before = Before := by
  funext x y
  rw [Ahead, if_pos h]

theorem ahead_back {r : Remains α} (h : r.atFront = false)
    : r.Ahead Before = fun x y => Before y x := by
  funext x y
  rw [Ahead, if_neg (by rw [h]; exact Bool.false_ne_true)]

theorem ahead_trans (hless : Tells less Earlier Before Q) (r : Remains α) {x y z : α}
    (hxy : r.Ahead Before x y)
    (hyz : r.Ahead Before y z) : r.Ahead Before x z := by
  cases hside : r.atFront with
  | true =>
    rw [ahead_front hside] at *
    exact hless.trans hxy hyz
  | false =>
    rw [ahead_back hside] at *
    exact hless.trans hyz hxy

theorem split_sorted (r : Remains α) {xs : List α} (h : xs.Pairwise Before) (n : Nat)
    : (r.split xs n).1.Pairwise (fun z w => r.Ahead Before w z) ∧ (r.split xs n).2.Pairwise Before
        ∧ ∀ x ∈ (r.split xs n).1, ∀ y ∈ (r.split xs n).2, r.Ahead Before x y := by
  unfold split
  cases hside : r.atFront with
  | true =>
    rw [ahead_front hside]
    rw [← List.take_append_drop n xs] at h
    obtain ⟨htake, hdrop, hacross⟩ := List.pairwise_append.mp h
    exact ⟨List.pairwise_reverse.mpr htake, hdrop, fun x hx y hy =>
      hacross x (List.mem_reverse.mp hx) y hy⟩
  | false =>
    rw [ahead_back hside]
    rw [← List.take_append_drop (xs.length - n) xs] at h
    obtain ⟨htake, hdrop, hacross⟩ := List.pairwise_append.mp h
    exact ⟨hdrop, htake, fun x hx y hy => hacross y hy x hx⟩

/--
What can be merged: two runs in order, and behind them, in the order of the merge, what is merged.
-/
structure IsMergeable (Earlier Before : α → α → Prop) (r : Remains α) : Prop where
  left : r.left.Pairwise Before
  right : r.right.Pairwise Before
  apart : ∀ x ∈ r.left, ∀ y ∈ r.right, Earlier x y
  merged : r.merged.Pairwise fun z w => r.Ahead Before w z
  behind : ∀ z ∈ r.merged, ∀ x ∈ r.left ++ r.right, r.Ahead Before z x
  /-- The left side is not used up before the right one if the merge begins at the front. -/
  last : r.atFront = true → ∀ x ∈ r.left.getLast?, ∀ y ∈ r.right, Before y x
  /-- The right side is not used up before the left one if the merge begins at the back. -/
  first : r.atFront = false → ∀ y ∈ r.right.head?, ∀ x ∈ r.left, Before y x

theorem IsMergeable.followedBy {r : Remains α} (h : r.IsMergeable Earlier Before) {xs : List α}
    (hxs : xs.Perm (r.left ++ r.right)) (hsorted : xs.Pairwise Before)
    : (r.followedBy xs).Pairwise Before := by
  have hmerged := h.merged
  have hbehind := h.behind
  unfold Remains.followedBy
  cases hside : r.atFront with
  | true =>
    rw [ahead_front hside] at hmerged hbehind
    refine List.pairwise_append.mpr
      ⟨List.pairwise_reverse.mpr hmerged, hsorted, fun z hz x hx => ?_⟩
    exact hbehind z (List.mem_reverse.mp hz) x (hxs.mem_iff.mp hx)
  | false =>
    rw [ahead_back hside] at hmerged hbehind
    exact List.pairwise_append.mpr
      ⟨hsorted, hmerged, fun x hx z hz => hbehind z hz x (hxs.mem_iff.mp hx)⟩

theorem IsMergeable.takeLeft {r : Remains α} (h : r.IsMergeable Earlier Before) {n : Nat}
    (hahead : ∀ x ∈ (r.split r.left n).1, ∀ y ∈ r.right, r.Ahead Before x y)
    : (r.takeLeft n).IsMergeable Earlier Before := by
  obtain ⟨htaken, hleft, hacross⟩ := r.split_sorted h.left n
  have hmem : ∀ x, x ∈ (r.split r.left n).1 ∨ x ∈ (r.split r.left n).2 → x ∈ r.left := by
    intro x hx
    exact (r.split_perm r.left n).mem_iff.mp (List.mem_append.mpr hx)
  refine ⟨hleft, h.right, fun x hx => h.apart x (hmem x (.inr hx)), ?_, ?_, ?_, ?_⟩
  . exact List.pairwise_append.mpr
      ⟨htaken, h.merged, fun x hx z hz =>
        h.behind z hz x (List.mem_append_left _ (hmem x (.inl hx)))⟩
  . intro z hz x hx
    rcases List.mem_append.mp hz with hz | hz
    . rcases List.mem_append.mp hx with hx | hx
      . exact hacross z hz x hx
      . exact hahead z hz x hx
    . refine h.behind z hz x ?_
      rcases List.mem_append.mp hx with hx | hx
      . exact List.mem_append_left _ (hmem x (.inr hx))
      . exact List.mem_append_right _ hx
  . intro hfront x hx
    refine h.last hfront x ?_
    unfold Remains.takeLeft split at hx
    rw [show r.atFront = true from hfront, if_pos rfl] at hx
    dsimp only at hx
    rw [List.getLast?_drop] at hx
    split at hx
    . cases hx
    . exact hx
  . intro hback y hy x hx
    exact h.first hback y hy x (hmem x (.inr hx))

theorem IsMergeable.takeRight {r : Remains α} (h : r.IsMergeable Earlier Before) {n : Nat}
    (hahead : ∀ y ∈ (r.split r.right n).1, ∀ x ∈ r.left, r.Ahead Before y x)
    : (r.takeRight n).IsMergeable Earlier Before := by
  obtain ⟨htaken, hright, hacross⟩ := r.split_sorted h.right n
  have hmem : ∀ y, y ∈ (r.split r.right n).1 ∨ y ∈ (r.split r.right n).2 → y ∈ r.right := by
    intro y hy
    exact (r.split_perm r.right n).mem_iff.mp (List.mem_append.mpr hy)
  refine ⟨h.left, hright, fun x hx y hy => h.apart x hx y (hmem y (.inr hy)), ?_, ?_, ?_, ?_⟩
  . exact List.pairwise_append.mpr
      ⟨htaken, h.merged, fun y hy z hz =>
        h.behind z hz y (List.mem_append_right _ (hmem y (.inl hy)))⟩
  . intro z hz x hx
    rcases List.mem_append.mp hz with hz | hz
    . rcases List.mem_append.mp hx with hx | hx
      . exact hahead z hz x hx
      . exact hacross z hz x hx
    . refine h.behind z hz x ?_
      rcases List.mem_append.mp hx with hx | hx
      . exact List.mem_append_left _ hx
      . exact List.mem_append_right _ (hmem x (.inr hx))
  . intro hfront x hx y hy
    exact h.last hfront x hx y (hmem y (.inr hy))
  . intro hback y hy
    refine h.first hback y ?_
    unfold Remains.takeRight split at hy
    rw [show r.atFront = false from hback, if_neg Bool.false_ne_true] at hy
    dsimp only at hy
    rw [List.head?_take] at hy
    split at hy
    . cases hy
    . exact hy

theorem finish?_perm {r : Remains α} {done : List α} (h : r.finish? = some done)
    : done.Perm r.elements := by
  unfold finish? at h
  split at h
  next hleft =>
    cases h
    exact r.followedBy_perm (by rw [hleft, List.nil_append])
  next hright _ =>
    cases h
    exact r.followedBy_perm (by rw [hright, List.append_nil])
  next x _ hleft _ =>
    cases h
    apply followedBy_perm
    rw [hleft]
    exact List.perm_append_comm
  next y _ hright _ =>
    cases h
    apply followedBy_perm
    rw [hright]
    exact (List.perm_append_singleton ..).symm
  next => cases h

theorem IsMergeable.finish? {r : Remains α} (h : r.IsMergeable Earlier Before) {done : List α}
    (hdone : r.finish? = some done) : done.Pairwise Before := by
  unfold Remains.finish? at hdone
  split at hdone
  next hleft =>
    cases hdone
    exact h.followedBy (by rw [hleft, List.nil_append]) h.right
  next hright _ =>
    cases hdone
    exact h.followedBy (by rw [hright, List.append_nil]) h.left
  next x hfront hleft _ =>
    cases hdone
    refine h.followedBy (by rw [hleft]; exact List.perm_append_comm) ?_
    refine List.pairwise_append.mpr ⟨h.right, List.pairwise_singleton .., fun y hy x' hx' => ?_⟩
    rw [List.mem_singleton.mp hx']
    exact h.last hfront x (by rw [hleft]; rfl) y hy
  next y hback hright _ =>
    cases hdone
    refine h.followedBy (by rw [hright]; exact (List.perm_append_singleton ..).symm) ?_
    exact List.pairwise_cons.mpr ⟨h.first hback y (by rw [hright]; rfl), h.left⟩
  next => cases hdone

theorem finish?_none {r : Remains α} (h : r.finish? = none) : r.left ≠ [] ∧ r.right ≠ [] := by
  refine ⟨?_, ?_⟩
  . intro hleft
    unfold finish? at h
    rw [hleft] at h
    cases h
  . intro hright
    unfold finish? at h
    rw [hright] at h
    cases hleft : r.left <;> rw [hleft] at h <;> cases h

theorem heads?_split {r : Remains α} {x y : α} (h : r.heads? = some (x, y))
    : (r.split r.left 1).1 = [x] ∧ (r.split r.right 1).1 = [y] := by
  unfold heads? at h
  unfold split
  split at h
  next hfront =>
    rw [Option.bind_eq_bind, Option.bind_eq_some_iff] at h
    obtain ⟨a, ha, h⟩ := h
    obtain ⟨b, hb, h⟩ := Option.bind_eq_some_iff.mp h
    cases h
    rw [if_pos hfront, if_pos hfront, List.take_one, List.take_one, ha, hb]
    exact ⟨rfl, rfl⟩
  next hback =>
    rw [Option.bind_eq_bind, Option.bind_eq_some_iff] at h
    obtain ⟨a, ha, h⟩ := h
    obtain ⟨b, hb, h⟩ := Option.bind_eq_some_iff.mp h
    cases h
    obtain ⟨xs, hxs⟩ := List.getLast?_eq_some_iff.mp ha
    obtain ⟨ys, hys⟩ := List.getLast?_eq_some_iff.mp hb
    rw [if_neg hback, if_neg hback, hxs, hys]
    simp

theorem heads?_isSome {r : Remains α} (hleft : r.left ≠ []) (hright : r.right ≠ [])
    : r.heads? ≠ none := by
  intro h
  unfold heads? at h
  split at h
  . rw [List.head?_eq_some_head hleft, List.head?_eq_some_head hright] at h
    cases h
  . rw [List.getLast?_eq_some_getLast hleft, List.getLast?_eq_some_getLast hright] at h
    cases h

theorem ahead_of_next (hless : Tells less Earlier Before Q) (r : Remains α) {xs : List α}
    (h : xs.Pairwise Before)
    {x z : α} (hnext : (r.split xs 1).1 = [x]) (hz : r.Ahead Before z x)
    : ∀ w ∈ xs, r.Ahead Before z w := by
  obtain ⟨_, _, hacross⟩ := r.split_sorted h 1
  have hperm := r.split_perm xs 1
  rw [hnext] at hacross hperm
  intro w hw
  rcases List.mem_cons.mp (hperm.mem_iff.mpr hw) with rfl | hw
  . exact hz
  . exact ahead_trans hless r hz (hacross x (List.mem_singleton_self _) w hw)

theorem forall_next {r : Remains α} {xs ys : List α} {x : α} (hnext : (r.split xs 1).1 = [x])
    (h : ∀ y ∈ ys, r.Ahead Before x y) : ∀ z ∈ (r.split xs 1).1, ∀ y ∈ ys, r.Ahead Before z y := by
  rw [hnext]
  intro z hz
  rw [List.mem_singleton.mp hz]
  exact h

structure IsStretch (Before : α → α → Prop) (r : Remains α) (key : α) (xs : List α) (n : Nat)
    : Prop where
  before : ∀ x ∈ (r.split xs n).1, r.Ahead Before x key
  behind : ∀ x ∈ (r.split xs n).2, r.Ahead Before key x

theorem isStretch_front {r : Remains α} (hfront : r.atFront = true) {key : α} {xs : List α}
    {n : Nat}
    (h : IsPlace Before key xs n) : r.IsStretch Before key xs n := by
  have hsplit : r.split xs n = ((xs.take n).reverse, xs.drop n) := if_pos hfront
  refine ⟨?_, ?_⟩
  . rw [ahead_front hfront, hsplit]
    exact fun x hx => h.low x (List.mem_reverse.mp hx)
  . rw [ahead_front hfront, hsplit]
    exact h.high

theorem isStretch_back {r : Remains α} (hback : r.atFront = false) {key : α} {xs : List α} {n : Nat}
    (h : IsPlace Before key xs n) : r.IsStretch Before key xs (xs.length - n) := by
  have hsplit : r.split xs (xs.length - n) = (xs.drop n, xs.take n) := by
    rw [split, hback, if_neg Bool.false_ne_true]
    by_cases hn : n ≤ xs.length
    . rw [Nat.sub_sub_self hn]
    . have hlength : xs.length - (xs.length - n) = xs.length := by omega
      rw [hlength, List.drop_length, List.take_length, List.drop_eq_nil_of_le (by omega),
        List.take_of_length_le (by omega)]
  refine ⟨?_, ?_⟩
  . rw [ahead_back hback, hsplit]
    exact h.high
  . rw [ahead_back hback, hsplit]
    exact h.low

theorem leftStretch_ends (hless : Tells less Earlier Before Q) {r : Remains α}
    (h : r.IsMergeable Earlier Before)
    {y : α} (hy : y ∈ r.right) : Ends (r.leftStretch less y) (r.IsStretch Before y r.left) Q := by
  have hapart : ∀ x ∈ r.left, Earlier x y := fun x hx => h.apart x hx y hy
  unfold leftStretch
  split
  next hfront => exact (countNotGreater_ends hless h.left hapart _).imp fun n hn =>
    isStretch_front hfront hn
  next hback =>
    rw [Bool.not_eq_true] at hback
    exact ends_bind (countNotGreater_ends hless h.left hapart _) fun n hn =>
      ends_ok (isStretch_back hback hn)

theorem rightStretch_ends (hless : Tells less Earlier Before Q) {r : Remains α}
    (h : r.IsMergeable Earlier Before)
    {x : α} (hx : x ∈ r.left) : Ends (r.rightStretch less x) (r.IsStretch Before x r.right) Q := by
  have hapart : ∀ y ∈ r.right, Earlier x y := h.apart x hx
  unfold rightStretch
  split
  next hfront => exact (countLess_ends hless h.right hapart _).imp fun n hn =>
    isStretch_front hfront hn
  next hback =>
    rw [Bool.not_eq_true] at hback
    exact ends_bind (countLess_ends hless h.right hapart _) fun n hn =>
      ends_ok (isStretch_back hback hn)

theorem ahead_of_answer {r : Remains α} {x y : α} {c : Bool}
    (h : if c then Before y x else Before x y)
    : if c == r.atFront then r.Ahead Before y x else r.Ahead Before x y := by
  cases hside : r.atFront with
  | true =>
    rw [ahead_front hside, beq_true]
    exact h
  | false =>
    rw [ahead_back hside, beq_false]
    cases c with
    | true => exact h
    | false => exact h

def IsMerged (Before : α → α → Prop) (r : Remains α) (xs : List α) : Prop :=
  xs.Perm r.elements ∧ xs.Pairwise Before

end Remains

/--
What is known of the elements that are taken next: after a stretch of one side, one element of the
other side.
-/
def Phase.IsDue (Before : α → α → Prop) (r : Remains α) : Phase → Prop
  | .oneRight _ => ∀ y ∈ (r.split r.right 1).1, ∀ x ∈ r.left, r.Ahead Before y x
  | .oneLeft _ _ => ∀ x ∈ (r.split r.left 1).1, ∀ y ∈ r.right, r.Ahead Before x y
  | _ => True

def Phase.idle : Phase → Nat
  | .leftStretch => 1
  | .rightStretch _ => 1
  | _ => 0

/-- With so much fuel, whatever can be merged is merged: four steps suffice for an element. -/
def Merges (less : α → α → Except ε Bool) (Earlier Before : α → α → Prop) (Q : ε → Prop)
    (fuel : Nat) : Prop :=
  ∀ (patience : Nat) {phase : Phase} {r : Remains α}, r.IsMergeable Earlier Before →
    phase.IsDue Before r →
    4 * (r.left.length + r.right.length) + phase.idle ≤ fuel →
    Ends (mergeRemains less fuel patience phase r) (fun m => r.IsMerged Before m.1) Q

theorem Merges.takeLeft {fuel : Nat} (h : Merges less Earlier Before Q fuel) {r : Remains α}
    (hr : r.IsMergeable Earlier Before) {n : Nat} {patience : Nat} {phase : Phase}
    (hahead : ∀ x ∈ (r.split r.left n).1, ∀ y ∈ r.right, r.Ahead Before x y)
    (hdue : phase.IsDue Before (r.takeLeft n))
    (hfuel : 4 * (r.left.length - n + r.right.length) + phase.idle ≤ fuel)
    : Ends (mergeRemains less fuel patience phase (r.takeLeft n))
      (fun m => r.IsMerged Before m.1) Q := by
  rw [← r.split_length r.left n] at hfuel
  exact (h patience (hr.takeLeft hahead) hdue hfuel).imp fun m hm =>
    ⟨hm.1.trans (r.takeLeft_perm n), hm.2⟩

theorem Merges.takeRight {fuel : Nat} (h : Merges less Earlier Before Q fuel) {r : Remains α}
    (hr : r.IsMergeable Earlier Before) {n : Nat} {patience : Nat} {phase : Phase}
    (hahead : ∀ y ∈ (r.split r.right n).1, ∀ x ∈ r.left, r.Ahead Before y x)
    (hdue : phase.IsDue Before (r.takeRight n))
    (hfuel : 4 * (r.left.length + (r.right.length - n)) + phase.idle ≤ fuel)
    : Ends (mergeRemains less fuel patience phase (r.takeRight n))
      (fun m => r.IsMerged Before m.1) Q := by
  rw [← r.split_length r.right n] at hfuel
  exact (h patience (hr.takeRight hahead) hdue hfuel).imp fun m hm =>
    ⟨hm.1.trans (r.takeRight_perm n), hm.2⟩

theorem merges (hless : Tells less Earlier Before Q) (fuel : Nat)
    : Merges less Earlier Before Q fuel := by
  -- by induction on the fuel; the phases that may take nothing are paid for in advance by those
  -- before them
  induction fuel with
  | zero =>
    intro patience phase r h hdue hfuel
    have hnil : r.left ++ r.right = [] :=
      List.length_eq_zero_iff.mp (by rw [List.length_append]; omega)
    exact ends_ok ⟨r.followedBy_perm (.refl _), h.followedBy (.refl _) (hnil ▸ .nil)⟩
  | succ fuel ih =>
    intro patience phase r h hdue hfuel
    unfold mergeRemains
    split
    next done hdone => exact ends_ok ⟨Remains.finish?_perm hdone, h.finish? hdone⟩
    next hfinish hheads =>
      obtain ⟨hleft, hright⟩ := Remains.finish?_none hfinish
      exact absurd hheads (Remains.heads?_isSome hleft hright)
    next x y hfinish hheads =>
      obtain ⟨hx, hy⟩ := Remains.heads?_split hheads
      have hxmem : x ∈ r.left :=
        (r.split_perm r.left 1).mem_iff.mp (by rw [hx]; exact List.mem_cons_self ..)
      have hymem : y ∈ r.right :=
        (r.split_perm r.right 1).mem_iff.mp (by rw [hy]; exact List.mem_cons_self ..)
      have hleft := List.length_pos_of_mem hxmem
      have hright := List.length_pos_of_mem hymem
      cases phase with
      | single leftWins rightWins =>
        have hrest : 4 * (r.left.length + r.right.length) ≤ fuel + 1 := hfuel
        refine ends_bind (hless.ends (h.apart x hxmem y hymem)) fun c hc => ?_
        -- the answer counts for the right side at the front and for the left side at the back
        have hfirst := Remains.ahead_of_answer (r := r) hc
        dsimp only
        cases hside : c == r.atFront with
        | true =>
          rw [hside] at hfirst
          have hahead := Remains.forall_next hy (Remains.ahead_of_next hless r h.left hx hfirst)
          rw [if_pos rfl, if_pos rfl]
          split
          . exact ih.takeRight h hahead trivial (by simp only [Phase.idle]; omega)
          . exact ih.takeRight h hahead trivial (by simp only [Phase.idle]; omega)
        | false =>
          rw [hside] at hfirst
          have hahead := Remains.forall_next hx (Remains.ahead_of_next hless r h.right hy hfirst)
          rw [if_neg Bool.false_ne_true, if_neg Bool.false_ne_true]
          split
          . exact ih.takeLeft h hahead trivial (by simp only [Phase.idle]; omega)
          . exact ih.takeLeft h hahead trivial (by simp only [Phase.idle]; omega)
      | leftStretch =>
        have hrest : 4 * (r.left.length + r.right.length) + 1 ≤ fuel + 1 := hfuel
        refine ends_bind (Remains.leftStretch_ends hless h hymem) fun n hn => ?_
        exact ih.takeLeft h (fun x hx => Remains.ahead_of_next hless r h.right hy (hn.before x hx))
          (Remains.forall_next hy hn.behind) (by simp only [Phase.idle]; omega)
      | oneRight n =>
        have hrest : 4 * (r.left.length + r.right.length) ≤ fuel + 1 := hfuel
        exact ih.takeRight h hdue trivial (by simp only [Phase.idle]; omega)
      | rightStretch n =>
        have hrest : 4 * (r.left.length + r.right.length) + 1 ≤ fuel + 1 := hfuel
        refine ends_bind (Remains.rightStretch_ends hless h hxmem) fun m hm => ?_
        exact ih.takeRight h (fun y hy => Remains.ahead_of_next hless r h.left hx (hm.before y hy))
          (Remains.forall_next hx hm.behind) (by simp only [Phase.idle]; omega)
      | oneLeft n m =>
        have hrest : 4 * (r.left.length + r.right.length) ≤ fuel + 1 := hfuel
        dsimp only
        split
        next done hdone =>
          exact ends_ok ⟨(Remains.finish?_perm hdone).trans (r.takeLeft_perm 1),
            (h.takeLeft hdue).finish? hdone⟩
        next =>
          split
          . exact ih.takeLeft h hdue trivial (by simp only [Phase.idle]; omega)
          . exact ih.takeLeft h hdue trivial (by simp only [Phase.idle]; omega)

theorem mergeStart_ends (hless : Tells less Earlier Before Q) (patience : Nat) {left right : List α}
    {x y : α} (hleft : left.Pairwise Before) (hright : right.Pairwise Before)
    (hapart : ∀ x ∈ left, ∀ y ∈ right, Earlier x y) (hlast : left.getLast? = some x)
    (hhead : right.head? = some y) (hx : ∀ z ∈ right, Before z x) (hy : ∀ z ∈ left, Before y z)
    : Ends
        (mergeRemains less (4 * (left.length + right.length)) patience (.single 0 0)
          (if left.length ≤ right.length then Remains.takeRight ⟨true, left, right, []⟩ 1
            else Remains.takeLeft ⟨false, left, right, []⟩ 1))
        (fun m => m.1.Perm (left ++ right) ∧ m.1.Pairwise Before) Q := by
  have hstart : ∀ atFront, Remains.IsMergeable Earlier Before ⟨atFront, left, right, []⟩ := by
    intro atFront
    refine ⟨hleft, hright, hapart, .nil, nofun, fun _ x' hx' => ?_, fun _ y' hy' => ?_⟩
    . rw [Option.mem_def.mp hx', Option.some_inj] at hlast
      exact hlast ▸ hx
    . rw [Option.mem_def.mp hy', Option.some_inj] at hhead
      exact hhead ▸ hy
  have helements : ∀ atFront, (⟨atFront, left, right, []⟩ : Remains α).elements = left ++ right :=
    fun _ => List.append_nil _
  split
  . rw [← helements true]
    refine (merges hless _).takeRight (hstart true) ?_ trivial (by simp only [Phase.idle]; omega)
    rw [Remains.split, if_pos rfl, List.take_one, hhead, Remains.ahead_front rfl]
    intro z hz
    rw [List.mem_singleton.mp hz]
    exact hy
  . rw [← helements false]
    refine (merges hless _).takeLeft (hstart false) ?_ trivial (by simp only [Phase.idle]; omega)
    rw [Remains.ahead_back rfl, Remains.split, if_neg Bool.false_ne_true]
    obtain ⟨before, rfl⟩ := List.getLast?_eq_some_iff.mp hlast
    rw [List.length_append, List.length_singleton, Nat.add_sub_cancel, List.drop_left]
    intro z hz
    rw [List.mem_singleton.mp hz]
    exact hx

theorem pairwise_around {before left right after merged : List α}
    (hleft : (before ++ left).Pairwise Before) (hright : (right ++ after).Pairwise Before)
    (hbefore : ∀ x ∈ before, ∀ y ∈ right ++ after, Before x y)
    (hafter : ∀ x ∈ left, ∀ y ∈ after, Before x y) (hperm : merged.Perm (left ++ right))
    (hmerged : merged.Pairwise Before) : (before ++ merged ++ after).Pairwise Before := by
  obtain ⟨hfirst, _, hleft⟩ := List.pairwise_append.mp hleft
  obtain ⟨_, hlast, hright⟩ := List.pairwise_append.mp hright
  have hmem : ∀ z ∈ merged, z ∈ left ∨ z ∈ right :=
    fun z hz => List.mem_append.mp (hperm.mem_iff.mp hz)
  refine List.pairwise_append.mpr ⟨?_, hlast, fun x hx y hy => ?_⟩
  . refine List.pairwise_append.mpr ⟨hfirst, hmerged, fun x hx y hy => ?_⟩
    rcases hmem y hy with hy | hy
    . exact hleft x hx y hy
    . exact hbefore x hx y (List.mem_append_left _ hy)
  . rcases List.mem_append.mp hx with hx | hx
    . exact hbefore x hx y (List.mem_append_right _ hy)
    . rcases hmem x hx with hx | hx
      . exact hafter x hx y hy
      . exact hright x hx y hy

theorem merge_ends (hless : Tells less Earlier Before Q) (patience : Nat) {left right : List α}
    (hleft : left.Pairwise Before) (hright : right.Pairwise Before)
    (hapart : ∀ x ∈ left, ∀ y ∈ right, Earlier x y)
    : Ends (merge less patience left right)
      (fun m => m.1.Perm (left ++ right) ∧ m.1.Pairwise Before) Q := by
  unfold merge
  split
  next hhead =>
    rw [List.head?_eq_none_iff.mp hhead, List.append_nil]
    exact ends_ok ⟨.refl _, hleft⟩
  next y hhead =>
    have hy : y ∈ right := List.mem_of_head? hhead
    refine ends_bind (countNotGreater_ends hless hleft (fun x hx => hapart x hx y hy) _) fun n hn =>
      ?_
    -- what stands before the first element of the right run stands before all of it
    have hbefore : ∀ x ∈ left.take n, ∀ z ∈ right, Before x z := by
      intro x hx
      have hxright := pairwise_cons_of_head hright hhead (hn.low x hx) hless.trans
      exact fun z hz => List.rel_of_pairwise_cons hxright hz
    have hsplit : left.take n ++ left.drop n = left := List.take_append_drop ..
    dsimp only
    split
    next hlast =>
      rw [List.getLast?_eq_none_iff.mp hlast, List.append_nil] at hsplit
      rw [hsplit] at hbefore
      rw [hsplit]
      exact ends_ok ⟨.refl _, List.pairwise_append.mpr ⟨hleft, hright, hbefore⟩⟩
    next x hlast =>
      have hx : x ∈ left := List.mem_of_mem_drop (List.mem_of_getLast? hlast)
      refine ends_bind (countLess_ends hless hright (hapart x hx) _) fun m hm => ?_
      have hsplit' : right.take m ++ right.drop m = right := List.take_append_drop ..
      have hleft' : (left.drop n).Pairwise Before := hleft.sublist (List.drop_sublist ..)
      have hright' : (right.take m).Pairwise Before := hright.sublist (List.take_sublist ..)
      have hall : left.take n ++ (left.drop n ++ right.take m) ++ right.drop m = left ++ right := by
        rw [← List.append_assoc, hsplit, List.append_assoc, hsplit']
      -- the last element of the left run stands before what is left in place behind it
      have hafter : ∀ z ∈ left.drop n, ∀ w ∈ right.drop m, Before z w := by
        intro z hz w hw
        obtain ⟨zs, hzs⟩ := List.getLast?_eq_some_iff.mp hlast
        rw [hzs] at hz hleft'
        rcases List.mem_append.mp hz with hz | hz
        . exact hless.trans
            ((List.pairwise_append.mp hleft').2.2 z hz x (List.mem_singleton_self _)) (hm.high w hw)
        . exact List.mem_singleton.mp hz ▸ hm.high w hw
      have hdone : ∀ {merged : List α}, merged.Perm (left.drop n ++ right.take m) →
        merged.Pairwise Before →
          (left.take n ++ merged ++ right.drop m).Perm (left ++ right)
            ∧ (left.take n ++ merged ++ right.drop m).Pairwise Before := by
        intro merged hperm hsorted
        refine ⟨hall ▸ (hperm.append_left _).append_right _, ?_⟩
        exact pairwise_around (hsplit.symm ▸ hleft) (hsplit'.symm ▸ hright)
          (hsplit'.symm ▸ hbefore) hafter hperm
          hsorted
      split
      next hnil =>
        have hnil : right.take m = [] := List.isEmpty_iff.mp hnil
        exact ends_ok (hdone (by rw [hnil, List.append_nil]) hleft')
      next hne =>
        have hm0 : m ≠ 0 := by
          rintro rfl
          exact hne rfl
        have hhead' : (right.take m).head? = some y := by rw [List.head?_take, if_neg hm0, hhead]
        have hapart' : ∀ x ∈ left.drop n, ∀ y ∈ right.take m, Earlier x y := fun x hx y hy =>
          hapart x (List.mem_of_mem_drop hx) y (List.mem_of_mem_take hy)
        exact ends_bind
          (mergeStart_ends hless patience hleft' hright' hapart' hlast hhead' hm.low hn.high)
          fun merged hmerged => ends_ok (hdone hmerged.1 hmerged.2)

end

end DocStore.StableSort
