import DocStore.Proofs.Number.Nearest

/-!
This module contains the exact values of numbers: two numbers, or a number and an integer, are equal
if their exact values are the same.
-/

namespace DocStore

namespace Double

def magnitude (rank : Nat) : ℚ := ((ratio rank).1 : ℚ) / (ratio rank).2

def quantity? : Double → Option (ℚ ⊕ Bool)
  | .nan => none
  | .infinite negative => some (.inr negative)
  | .finite negative rank => some (.inl (if negative then -magnitude rank else magnitude rank))

theorem magnitude_inj {r s : Nat} : magnitude r = magnitude s ↔ r = s := by
  constructor
  . intro h
    rw [← rankOfRatio_ratio r, ← rankOfRatio_ratio s]
    exact rankOfRatio_congr (ratio_den_pos r) (ratio_den_pos s) h
  . exact congrArg magnitude

theorem magnitude_zero : magnitude 0 = 0 := by
  unfold magnitude
  rw [ratio_eq]
  simp [significand]

theorem magnitude_nonneg (r : Nat) : 0 ≤ magnitude r := by
  unfold magnitude
  positivity

theorem neg_magnitude_eq {r s : Nat} : -magnitude r = magnitude s ↔ r = 0 ∧ s = 0 := by
  constructor
  . intro h
    have hr := magnitude_nonneg r
    have hs := magnitude_nonneg s
    constructor
    . rw [← magnitude_inj, magnitude_zero]
      linarith
    . rw [← magnitude_inj, magnitude_zero]
      linarith
  . rintro ⟨rfl, rfl⟩
    rw [magnitude_zero, neg_zero]

theorem order?_eq_iff (x y : Double)
    : x.order? y = some .eq ↔ ∃ q, x.quantity? = some q ∧ y.quantity? = some q := by
  cases x with
  | nan => simp [order?, quantity?]
  | infinite a =>
    cases y with
    | nan => simp [order?, quantity?]
    | infinite b => cases a <;> cases b <;> simp [order?, quantity?]
    | finite b s => cases a <;> simp [order?, quantity?]
  | finite a r =>
    cases y with
    | nan => simp [order?, quantity?]
    | infinite b => cases b <;> simp [order?, quantity?]
    | finite b s =>
      cases a with
      | false =>
        cases b with
        | false => simp [order?, quantity?, magnitude_inj, @eq_comm _ s.val]
        | true => simp [order?, quantity?, neg_magnitude_eq, and_comm]
      | true =>
        cases b with
        | false => simp [order?, quantity?, eq_comm, neg_magnitude_eq]
        | true => simp [order?, quantity?, magnitude_inj]

theorem orderInt?_eq_iff (x : Double) (n : Int)
    : x.orderInt? n = some .eq ↔ x.quantity? = some (.inl n) := by
  cases x with
  | nan => simp [orderInt?, quantity?]
  | infinite a => cases a <;> simp [orderInt?, quantity?]
  | finite a r =>
    have hden : ((ratio r).2 : ℚ) ≠ 0 := Nat.cast_ne_zero.mpr (ratio_den_pos r).ne'
    unfold orderInt? quantity? compareRatios magnitude
    dsimp only
    rw [Option.some_inj, compare_eq_iff_eq, Option.some_inj, Sum.inl.injEq]
    cases a with
    | false =>
      simp only [Bool.false_eq_true, if_false]
      rw [div_eq_iff hden]
      norm_cast
      simp
    | true =>
      simp only [if_true]
      rw [← neg_div, div_eq_iff hden]
      norm_cast
      simp

end Double

end DocStore
