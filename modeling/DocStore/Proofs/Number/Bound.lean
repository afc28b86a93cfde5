import DocStore.Number.Numeral

/-!
This module contains the bounds of the integers that numerals and floating point numbers lead to:
none has more digits than are converted to text.
-/

namespace DocStore

namespace Numeral

theorem digitValue?_lt {base : Nat} {c : Char} {v : Nat} (h : digitValue? base c = some v)
    : v < base := by
  unfold digitValue? at h
  dsimp only at h
  rw [Option.bind_eq_some_iff] at h
  obtain ⟨w, _, hw⟩ := h
  split at hw
  next hlt =>
    cases hw
    exact hlt
  next => cases hw

theorem push_lt_pow {base value count v : Nat} (h : value < base ^ count) (hv : v < base)
    : base * value + v < base ^ (count + 1) := by
  have : base * (value + 1) ≤ base * base ^ count := Nat.mul_le_mul_left base h
  rw [Nat.pow_succ, Nat.mul_comm (base ^ count)]
  rw [Nat.mul_add] at this
  omega

theorem digits_go_lt {base : Nat} (s : List Char) (value count : Nat) (h : value < base ^ count)
    : (digits.go base value count s).1 < base ^ (digits.go base value count s).2.1 := by
  fun_induction digits.go base value count s with
  | case1 => exact h
  | case2 value count c rest v hv ih => exact ih (push_lt_pow h (digitValue?_lt hv))
  | case3 value count c hc hu d rest' v hv ih => exact ih (push_lt_pow h (digitValue?_lt hv))
  | case4 => exact h
  | case5 => exact h
  | case6 => exact h

theorem digits_lt (base : Nat) (s : List Char)
    : (digits base s).1 < base ^ (digits base s).2.1 := by
  unfold digits
  apply digits_go_lt
  simp

theorem isLong_eq_false (count : Nat) {n : Int} (h : n.natAbs < 10 ^ count) (hc : count ≤ maxDigits)
    : isLong n = false := by
  have : 10 ^ count ≤ 10 ^ maxDigits := Nat.pow_le_pow_right (by omega) hc
  simp only [isLong, decide_eq_false_iff_not]
  omega

theorem readInteger_isLong {s : List Char} {n : Int} (h : readInteger s = .value n)
    : isLong n = false := by
  unfold readInteger at h
  dsimp only at h
  have hlt := digits_lt 10 (sign (trim s)).2
  split at h
  next value count hd =>
    rw [hd] at hlt
    split at h
    . cases h
    . split at h
      . cases h
      next hc =>
        cases h
        refine isLong_eq_false count ?_ (by omega)
        split
        . simpa using hlt
        . simpa using hlt
  next => cases h

end Numeral

namespace Double

theorem significand_lt (rank : Nat) : significand rank < 2 ^ 53 := by
  unfold significand
  split
  . omega
  . have := Nat.mod_lt rank (show 0 < 2 ^ 52 by decide)
    omega

def magnitudeBits : Nat := 1024

theorem ratio_lt (rank : Fin (2047 * 2 ^ 52)) : (ratio rank).1 < 2 ^ magnitudeBits := by
  have hs := significand_lt rank
  unfold ratio
  split
  next e he =>
    have hle : e ≤ 971 := by
      have : rank.val / 2 ^ 52 < 2047 := Nat.div_lt_of_lt_mul (by omega)
      simp only [exponent] at he
      have : (Int.ofNat e : Int) = e := rfl
      omega
    calc significand rank * 2 ^ e < 2 ^ 53 * 2 ^ e :=
      Nat.mul_lt_mul_of_pos_right hs (Nat.two_pow_pos e)
      _ = 2 ^ (53 + e) := (Nat.pow_add ..).symm
      _ ≤ 2 ^ magnitudeBits := by
          apply Nat.pow_le_pow_right (by decide)
          unfold magnitudeBits
          omega
  next =>
    exact Nat.lt_of_lt_of_le hs (Nat.pow_le_pow_right (by decide) (by decide))

theorem truncate?_isLong {x : Double} {n : Int} (h : x.truncate? = some n)
    : Numeral.isLong n = false := by
  unfold truncate? at h
  rw [Option.map_eq_some_iff] at h
  obtain ⟨⟨num, den⟩, hr, rfl⟩ := h
  have hnum : num.natAbs < 2 ^ magnitudeBits := by
    cases x with
    | finite negative rank =>
      have := ratio_lt rank
      simp only [toRational?, Option.some.injEq, Prod.mk.injEq] at hr
      rw [← hr.1]
      split
      . simpa using this
      . simpa using this
    | _ => cases hr
  refine Numeral.isLong_eq_false magnitudeBits ?_ (by decide)
  dsimp only
  calc (num.tdiv den).natAbs ≤ num.natAbs := by
        rw [Int.natAbs_tdiv]
        exact Nat.div_le_self ..
    _ < 2 ^ magnitudeBits := hnum
    _ ≤ 10 ^ magnitudeBits := Nat.pow_le_pow_left (by decide) _

end Double

end DocStore
