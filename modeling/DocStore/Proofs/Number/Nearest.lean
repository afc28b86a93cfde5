import Mathlib.Algebra.Order.Field.Power
import Mathlib.Algebra.Order.Field.Rat
import Mathlib.Data.Int.Log
import Mathlib.Data.Rat.Floor
import Mathlib.Tactic.Linarith
import Mathlib.Tactic.Positivity
import Mathlib.Tactic.Ring
import DocStore.Proofs.Number.Bound

/-!
This module contains the rank of the magnitude nearest to a quotient: it depends on the quotient
alone, and the exact value of a finite number is nearest to itself.
-/

namespace DocStore

namespace Double

theorem floorLog2_eq {num den : Nat} (hn : 0 < num) (hd : 0 < den)
    : floorLog2 num den = Int.log 2 ((num : ℚ) / den) := by
  have hnum : (0 : ℚ) < num := Nat.cast_pos.mpr hn
  have hden : (0 : ℚ) < den := Nat.cast_pos.mpr hd
  have hq : (0 : ℚ) < num / den := div_pos hnum hden
  have hnle : (2 : ℚ) ^ num.log2 ≤ num := by exact_mod_cast Nat.log2_self_le (by omega)
  have hnlt : (num : ℚ) < 2 ^ (num.log2 + 1) := by exact_mod_cast Nat.lt_log2_self
  have hdle : (2 : ℚ) ^ den.log2 ≤ den := by exact_mod_cast Nat.log2_self_le (by omega)
  have hdlt : (den : ℚ) < 2 ^ (den.log2 + 1) := by exact_mod_cast Nat.lt_log2_self
  generalize hl : ((num.log2 : Int) - (den.log2 : Int)) = l
  have hpow : (2 : ℚ) ^ l * 2 ^ den.log2 = 2 ^ num.log2 := by
    rw [← zpow_natCast, ← zpow_natCast, ← zpow_add₀ (by norm_num)]
    congr 1
    omega
  -- the two logarithms leave the quotient between half of the power and twice the power
  have hlower : l - 1 ≤ Int.log 2 ((num : ℚ) / den) := by
    rw [← Int.zpow_le_iff_le_log (by decide) hq, le_div_iff₀ hden, Nat.cast_ofNat,
      zpow_sub_one₀ (by norm_num)]
    calc (2 : ℚ) ^ l * 2⁻¹ * den ≤ 2 ^ l * 2⁻¹ * 2 ^ (den.log2 + 1) := by gcongr
      _ = 2 ^ l * 2 ^ den.log2 := by rw [pow_succ]; ring
      _ ≤ num := by rw [hpow]; exact hnle
  have hupper : Int.log 2 ((num : ℚ) / den) < l + 1 := by
    rw [← Int.lt_zpow_iff_log_lt (by decide) hq, div_lt_iff₀ hden, Nat.cast_ofNat,
      zpow_add_one₀ (by norm_num)]
    calc (num : ℚ) < 2 ^ (num.log2 + 1) := hnlt
      _ = 2 ^ l * 2 * 2 ^ den.log2 := by rw [pow_succ, ← hpow]; ring
      _ ≤ 2 ^ l * 2 * den := by gcongr
  have hcond : (2 : ℚ) ^ l ≤ num / den ↔ l ≤ Int.log 2 ((num : ℚ) / den) := by
    rw [← Int.zpow_le_iff_le_log (by decide) hq, Nat.cast_ofNat]
  unfold floorLog2
  rw [hl]
  dsimp only
  cases l with
  | ofNat k =>
    have hiff : den * 2 ^ k ≤ num ↔ (2 : ℚ) ^ (Int.ofNat k) ≤ num / den := by
      rw [le_div_iff₀ hden, Int.ofNat_eq_natCast, zpow_natCast, mul_comm]
      exact_mod_cast Iff.rfl
    rw [hcond] at hiff
    dsimp only
    split <;> omega
  | negSucc k =>
    have hiff : den ≤ num * 2 ^ (k + 1) ↔ (2 : ℚ) ^ (Int.negSucc k) ≤ num / den := by
      rw [le_div_iff₀ hden, zpow_negSucc, inv_mul_le_iff₀ (by positivity), mul_comm]
      exact_mod_cast Iff.rfl
    rw [hcond] at hiff
    dsimp only
    split <;> omega

theorem roundQuotient_scale {k : Nat} (hk : 0 < k) (num den : Nat)
    : roundQuotient (num * k) (den * k) = roundQuotient num den := by
  unfold roundQuotient
  dsimp only
  rw [Nat.mul_div_mul_right _ _ hk, Nat.mul_mod_mul_right, ← Nat.mul_assoc]
  simp only [Nat.mul_lt_mul_right hk]

theorem rankOfRatio_scale {num den k : Nat} (hd : 0 < den) (hk : 0 < k)
    : rankOfRatio (num * k) (den * k) = rankOfRatio num den := by
  unfold rankOfRatio
  split
  next hzero => rw [if_pos (by simpa [Nat.ne_of_gt hk] using hzero)]
  next hzero =>
    have hnum : 0 < num := Nat.pos_of_ne_zero fun h => hzero (by rw [h, Nat.zero_mul])
    have hcast : ((num * k : Nat) : ℚ) / ((den * k : Nat) : ℚ) = num / den := by
      push_cast
      exact mul_div_mul_right _ _ (Nat.cast_ne_zero.mpr (Nat.ne_of_gt hk))
    have hlog : floorLog2 (num * k) (den * k) = floorLog2 num den := by
      rw [floorLog2_eq (Nat.mul_pos hnum hk) (Nat.mul_pos hd hk), floorLog2_eq hnum hd, hcast]
    rw [if_neg (Nat.ne_of_gt hnum), hlog]
    split
    . rw [Nat.mul_right_comm, roundQuotient_scale hk]
    . rw [Nat.mul_right_comm, roundQuotient_scale hk]

theorem rankOfRatio_congr {num den num' den' : Nat} (hd : 0 < den) (hd' : 0 < den')
    (h : (num : ℚ) / den = num' / den') : rankOfRatio num den = rankOfRatio num' den' := by
  rw [div_eq_div_iff (Nat.cast_ne_zero.mpr (by omega)) (Nat.cast_ne_zero.mpr (by omega))] at h
  have hcross : num * den' = num' * den := by exact_mod_cast h
  rw [← rankOfRatio_scale hd hd', hcross, Nat.mul_comm den den', rankOfRatio_scale hd' hd]

theorem ofRatio_congr (negative : Bool) {num den num' den' : Nat} (hd : 0 < den) (hd' : 0 < den')
    (h : (num : ℚ) / den = num' / den')
    : ofRatio negative num den = ofRatio negative num' den' := by
  unfold ofRatio
  rw [rankOfRatio_congr hd hd' h]

theorem ratio_den_pos (rank : Nat) : 0 < (ratio rank).2 := by
  unfold ratio
  split
  . exact Nat.one_pos
  . exact Nat.two_pow_pos _

theorem ratio_num_pos {rank : Nat} (h : 0 < rank) : 0 < (ratio rank).1 := by
  have hpos : 0 < significand rank := by
    unfold significand
    split
    . exact h
    . omega
  unfold ratio
  split
  . exact Nat.mul_pos hpos (Nat.two_pow_pos _)
  . exact hpos

theorem ratio_eq (rank : Nat)
    : ((ratio rank).1 : ℚ) / (ratio rank).2 = significand rank * 2 ^ exponent rank := by
  unfold ratio
  cases exponent rank with
  | ofNat e => simp
  | negSucc e =>
    rw [zpow_negSucc, ← div_eq_mul_inv]
    push_cast
    rfl

theorem roundQuotient_exact {n den : Nat} (hd : 0 < den) : roundQuotient (n * den) den = n := by
  unfold roundQuotient
  dsimp only
  rw [Nat.mul_mod_left, Nat.mul_div_cancel _ hd, Nat.mul_zero, if_pos hd]

theorem floorLog2_ratio {rank : Nat} (h : 0 < rank)
    : max (floorLog2 (ratio rank).1 (ratio rank).2 - 52) (-1074) = exponent rank := by
  have hq : (0 : ℚ) < significand rank * 2 ^ exponent rank := by
    rw [← ratio_eq]
    exact div_pos (Nat.cast_pos.mpr (ratio_num_pos h)) (Nat.cast_pos.mpr (ratio_den_pos _))
  have hlt : (significand rank : ℚ) < 2 ^ (53 : Int) := by exact_mod_cast significand_lt rank
  have hupper : Int.log 2 ((significand rank : ℚ) * 2 ^ exponent rank) < 53 + exponent rank := by
    rw [← Int.lt_zpow_iff_log_lt (by decide) hq, Nat.cast_ofNat, zpow_add₀ (by norm_num)]
    gcongr
  rw [floorLog2_eq (ratio_num_pos h) (ratio_den_pos _), ratio_eq]
  -- a subnormal number has the least exponent; any other has all the 53 bits
  cases Nat.lt_or_ge rank (2 ^ 52) with
  | inl hsmall =>
    have hexponent : exponent rank = -1074 := by
      unfold exponent
      omega
    omega
  | inr hlarge =>
    have hge : (2 : ℚ) ^ (52 : Int) ≤ significand rank := by
      have : 2 ^ 52 ≤ significand rank := by
        unfold significand
        split <;> omega
      exact_mod_cast this
    have hlower : 52 + exponent rank ≤ Int.log 2 ((significand rank : ℚ) * 2 ^ exponent rank) := by
      rw [← Int.zpow_le_iff_le_log (by decide) hq, Nat.cast_ofNat, zpow_add₀ (by norm_num)]
      gcongr
    have hexponent : -1074 ≤ exponent rank := by
      unfold exponent
      omega
    omega

theorem rankOfRatio_ratio (rank : Nat) : rankOfRatio (ratio rank).1 (ratio rank).2 = rank := by
  cases Nat.eq_zero_or_pos rank with
  | inl h =>
    rw [h]
    rfl
  | inr h =>
    unfold rankOfRatio
    rw [if_neg (Nat.ne_of_gt (ratio_num_pos h)), floorLog2_ratio h]
    have hvalue : ∀ e : Nat, (e : Int) = exponent rank + 1074 →
        e * 2 ^ 52 + significand rank = rank := by
      intro e he
      unfold exponent at he
      unfold significand
      split <;> omega
    unfold ratio
    cases he : exponent rank with
    | ofNat e =>
      dsimp only
      rw [Nat.one_mul, roundQuotient_exact (by positivity)]
      rw [Int.ofNat_eq_natCast] at he
      exact hvalue _ (by omega)
    | negSucc e =>
      dsimp only
      rw [roundQuotient_exact (by positivity)]
      have hexponent : -1074 ≤ exponent rank := by
        unfold exponent
        omega
      exact hvalue _ (by omega)

theorem ofRatio_ratio (negative : Bool) (rank : Fin (2047 * 2 ^ 52))
    : ofRatio negative (ratio rank).1 (ratio rank).2 = .finite negative rank := by
  unfold ofRatio
  simp only [rankOfRatio_ratio]
  rw [dif_pos rank.isLt]

end Double

end DocStore
