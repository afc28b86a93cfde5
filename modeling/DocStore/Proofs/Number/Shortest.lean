import DocStore.Number.Decimal
import DocStore.Proofs.Number.Nearest

/-!
This module contains the proof that the shortest decimal of a number reads back as the number.
-/

namespace DocStore

namespace Double

theorem digitCount_le_iff {n k : Nat} (hk : 0 < k) : digitCount n ≤ k ↔ n < 10 ^ k := by
  unfold digitCount
  split
  next h =>
    rw [h]
    exact iff_of_true (Nat.zero_le _) (Nat.pow_pos (by decide))
  . exact Nat.length_toDigits_le_iff (by decide) hk

theorem digitCount_pos {n : Nat} (h : n ≠ 0) : 0 < digitCount n := by
  unfold digitCount
  rw [if_neg h]
  exact Nat.length_toDigits_pos

theorem digitCount_shift {n : Nat} (h : n ≠ 0) (j : Nat)
    : digitCount (n * 10 ^ j) = digitCount n + j := by
  have hpos : 0 < 10 ^ j := Nat.pow_pos (by decide)
  have hne : n * 10 ^ j ≠ 0 := Nat.mul_ne_zero h (Nat.ne_of_gt hpos)
  have hiff : ∀ k, 0 < k → (digitCount (n * 10 ^ j) ≤ k + j ↔ digitCount n ≤ k) := by
    intro k hk
    rw [digitCount_le_iff (by omega), digitCount_le_iff hk, Nat.pow_add, Nat.mul_lt_mul_right hpos]
  have hlt : j < digitCount (n * 10 ^ j) := by
    have hge : ¬digitCount (n * 10 ^ j) ≤ j := by
      intro hle
      cases Nat.eq_zero_or_pos j with
      | inl hj =>
        have := digitCount_pos hne
        omega
      | inr hj =>
        rw [digitCount_le_iff hj] at hle
        have := Nat.le_mul_of_pos_left (10 ^ j) (Nat.pos_of_ne_zero h)
        omega
    omega
  have hle := (hiff (digitCount n) (digitCount_pos h)).mpr (Nat.le_refl _)
  have hge := (hiff (digitCount (n * 10 ^ j) - j) (by omega)).mp (by omega)
  omega

theorem Decimal.ratio_den_pos (d : Decimal) : 0 < d.ratio.2 := by
  unfold Decimal.ratio
  split
  . exact Nat.one_pos
  . exact Nat.pow_pos (by decide)

theorem Decimal.ratio_eq (d : Decimal)
    : (d.ratio.1 : ℚ) / d.ratio.2 = d.digits * 10 ^ d.exponent := by
  unfold Decimal.ratio
  cases d.exponent with
  | ofNat e => simp
  | negSucc e =>
    rw [zpow_negSucc, ← div_eq_mul_inv]
    push_cast
    rfl

def Decimal.size (d : Decimal) : Int := digitCount d.digits + d.exponent

theorem ofDecimal_eq (negative : Bool) {d : Decimal} (h : d.digits ≠ 0) (hmax : d.size ≤ 310)
    (hmin : -330 ≤ d.size)
    : ofDecimal negative d.digits d.exponent = ofRatio negative d.ratio.1 d.ratio.2 := by
  unfold Decimal.size at hmax hmin
  unfold ofDecimal
  rw [if_neg h, if_neg (by omega), if_neg (by omega)]
  unfold Decimal.ratio
  split <;> rfl

theorem ofDecimal_shift (negative : Bool) (digits : Nat) (exponent : Int) (j : Nat)
    : ofDecimal negative (digits * 10 ^ j) exponent = ofDecimal negative digits (exponent + j) := by
  by_cases h : digits = 0
  . rw [h, Nat.zero_mul]
    rfl
  . have hne : digits * 10 ^ j ≠ 0 := Nat.mul_ne_zero h (Nat.ne_of_gt (Nat.pow_pos (by decide)))
    have hcount := digitCount_shift h j
    by_cases hmax : (digitCount digits : Int) + (exponent + j) > 310
    . unfold ofDecimal
      rw [if_neg hne, if_neg h, if_pos hmax, if_pos (by omega)]
    . by_cases hmin : (digitCount digits : Int) + (exponent + j) < -330
      . unfold ofDecimal
        rw [if_neg hne, if_neg h, if_neg hmax, if_pos hmin, if_neg (by omega), if_pos (by omega)]
      . have hshifted : Decimal.size ⟨digits * 10 ^ j, exponent⟩ = digitCount digits +
            (exponent + j) := by
          unfold Decimal.size
          dsimp only
          omega
        have hleft :=
          ofDecimal_eq negative (d := ⟨digits * 10 ^ j, exponent⟩) hne (by omega) (by omega)
        have hright :=
          ofDecimal_eq negative (d := ⟨digits, exponent + j⟩) h
            (by unfold Decimal.size; dsimp only; omega)
          (by unfold Decimal.size; dsimp only; omega)
        dsimp only at hleft hright
        rw [hleft, hright]
        apply ofRatio_congr negative (Decimal.ratio_den_pos _) (Decimal.ratio_den_pos _)
        rw [Decimal.ratio_eq, Decimal.ratio_eq]
        push_cast
        rw [zpow_add₀ (by norm_num), zpow_natCast]
        ring

theorem ofDecimal_finite {digits : Nat} {exponent : Int} {rank : Fin (2047 * 2 ^ 52)}
    (h : ofDecimal false digits exponent = .finite false rank) (negative : Bool)
    : ofDecimal negative digits exponent = .finite negative rank := by
  have hratio : ∀ num den, ofRatio false num den = .finite false rank →
      ofRatio negative num den = .finite negative rank := by
    intro num den h
    unfold ofRatio at h ⊢
    dsimp only at h ⊢
    split at h
    next hlt =>
      cases h
      rw [dif_pos hlt]
    . cases h
  unfold ofDecimal at h ⊢
  split
  next hzero =>
    rw [if_pos hzero] at h
    cases h
    rfl
  next hzero =>
    rw [if_neg hzero] at h
    split
    next hmax =>
      rw [if_pos hmax] at h
      cases h
    next hmax =>
      rw [if_neg hmax] at h
      split
      next hmin =>
        rw [if_pos hmin] at h
        cases h
        rfl
      next hmin =>
        rw [if_neg hmin] at h
        cases exponent with
        | ofNat e => exact hratio _ _ h
        | negSucc e => exact hratio _ _ h

namespace Decimal

theorem readsBack_iff {d : Decimal} {rank : Fin (2047 * 2 ^ 52)}
    : d.readsBack rank = true ↔ ofDecimal false d.digits d.exponent = .finite false rank := by
  unfold readsBack
  exact decide_eq_true_iff

theorem strip_readsBack (n : Nat) (d : Decimal) (rank : Fin (2047 * 2 ^ 52))
    : (strip n d).readsBack rank = d.readsBack rank := by
  induction n generalizing d with
  | zero => rfl
  | succ n ih =>
    rw [strip]
    split
    next h =>
      have hdigits : d.digits = d.digits / 10 * 10 ^ 1 := by omega
      have hshift := ofDecimal_shift false (d.digits / 10) d.exponent 1
      rw [ih]
      unfold readsBack
      dsimp only
      rw [← Nat.cast_one, ← hshift, ← hdigits]
    . rfl

theorem candidate?_readsBack {rank : Fin (2047 * 2 ^ 52)} {exponent : Int} {d : Decimal}
    (h : candidate? rank exponent = some d) : d.readsBack rank = true := by
  unfold candidate? at h
  dsimp only at h
  split at h
  next hbelow habove =>
    cases h
    split
    . exact hbelow
    . exact habove
  next hbelow _ =>
    cases h
    exact hbelow
  next _ habove =>
    cases h
    exact habove
  . cases h

theorem search_readsBack {rank : Fin (2047 * 2 ^ 52)} {k : Int} {tries n : Nat} {d : Decimal}
    (h : search rank k tries n = some d) : d.readsBack rank = true := by
  induction tries generalizing n with
  | zero => cases h
  | succ tries ih =>
    rw [search] at h
    split at h
    next hd =>
      cases h
      exact candidate?_readsBack hd
    . exact ih h

theorem exact_size_whole {m e : Nat} (hm : m < 2 ^ 53) (he : e ≤ 971)
    : (exact (m * 2 ^ e) 1).size ≤ 310 ∧ -330 ≤ (exact (m * 2 ^ e) 1).size := by
  have hsize : (exact (m * 2 ^ e) 1).size = digitCount (m * 2 ^ e) := by
    have hlog : Nat.log2 1 = 0 := by decide
    unfold exact size
    simp [hlog]
  have hle : digitCount (m * 2 ^ e) ≤ 310 := by
    rw [digitCount_le_iff (by decide)]
    calc m * 2 ^ e ≤ 2 ^ 53 * 2 ^ 971 :=
          Nat.mul_le_mul (Nat.le_of_lt hm) (Nat.pow_le_pow_right (by decide) he)
      _ < 10 ^ 310 := by decide +kernel
  omega

theorem exact_size_fraction {m e : Nat} (hpos : 0 < m) (hm : m < 2 ^ 53) (he : e ≤ 1074)
    : (exact m (2 ^ e)).size ≤ 310 ∧ -330 ≤ (exact m (2 ^ e)).size := by
  have hsize : (exact m (2 ^ e)).size = digitCount (m * 5 ^ e) - (e : Int) := by
    unfold exact size
    dsimp only
    rw [Nat.log2_two_pow]
    rfl
  have hle : digitCount (m * 5 ^ e) ≤ 16 + e := by
    rw [digitCount_le_iff (by omega), Nat.pow_add 10 16]
    have hsixteen : m < 10 ^ 16 := Nat.lt_of_lt_of_le hm (by decide)
    have hfive : 5 ^ e ≤ 10 ^ e := Nat.pow_le_pow_left (by decide) _
    exact Nat.mul_lt_mul_of_lt_of_le hsixteen hfive (Nat.pow_pos (by decide))
  have hcountPos :=
    digitCount_pos (Nat.ne_of_gt (Nat.mul_pos hpos (Nat.pow_pos (by decide) : 0 < 5 ^ e)))
  -- with fewer digits, `10 ^ e` as the product of `5 ^ e` and `2 ^ e` would be too small
  have hge : e ≤ digitCount (m * 5 ^ e) + 330 := by
    by_contra hlt
    have hcount : digitCount (m * 5 ^ e) ≤ e - 331 := by omega
    have hfew := (digitCount_le_iff (by omega)).mp hcount
    have hfive : 5 ^ e < 10 ^ (e - 331) := Nat.lt_of_le_of_lt (Nat.le_mul_of_pos_left _ hpos) hfew
    have hten : 10 ^ e = 10 ^ (e - 331) * 10 ^ 331 := by
      rw [← Nat.pow_add]
      congr 1
      omega
    have htwo : 10 ^ e = 5 ^ e * 2 ^ e := by rw [← Nat.mul_pow]
    have hsmall : 2 ^ e < 10 ^ 331 := by
      calc 2 ^ e ≤ 2 ^ 1074 := Nat.pow_le_pow_right (by decide) he
        _ < 10 ^ 331 := by decide +kernel
    have := Nat.mul_lt_mul_of_lt_of_lt hfive hsmall
    omega
  omega

theorem exact_size {rank : Nat} (h : 0 < rank) (hmax : rank < 2047 * 2 ^ 52)
    : (exact (Double.ratio rank).1 (Double.ratio rank).2).size ≤ 310
      ∧ -330 ≤ (exact (Double.ratio rank).1 (Double.ratio rank).2).size := by
  have hsignificand := Double.significand_lt rank
  have hpos := Double.ratio_num_pos h
  have hexponent : Double.exponent rank ≤ 971 ∧ -1074 ≤ Double.exponent rank := by
    unfold Double.exponent
    omega
  unfold Double.ratio at hpos ⊢
  cases he : Double.exponent rank with
  | ofNat e =>
    have hle := hexponent.1
    rw [he, Int.ofNat_eq_natCast] at hle
    exact exact_size_whole hsignificand (by omega)
  | negSucc e =>
    rw [he] at hpos hexponent
    exact exact_size_fraction hpos hsignificand (by omega)

theorem exact_readsBack {rank : Fin (2047 * 2 ^ 52)} (h : 0 < rank.val)
    : (exact (Double.ratio rank).1 (Double.ratio rank).2).readsBack rank = true := by
  obtain ⟨hmax, hmin⟩ := exact_size h rank.isLt
  have hpos := Double.ratio_num_pos h
  have hden : (Double.ratio rank).2 = 2 ^ (Double.ratio rank).2.log2 := by
    unfold Double.ratio
    split
    . rfl
    . rw [Nat.log2_two_pow]
  rw [readsBack_iff, ofDecimal_eq false _ hmax hmin, ← ofRatio_ratio]
  . apply ofRatio_congr false (Decimal.ratio_den_pos _) (Double.ratio_den_pos _)
    rw [Decimal.ratio_eq]
    unfold exact
    dsimp only
    generalize (Double.ratio rank).2.log2 = k at hden
    rw [hden]
    push_cast
    have hten : (10 : ℚ) ^ k = 5 ^ k * 2 ^ k := by rw [← mul_pow]; norm_num
    rw [zpow_neg, zpow_natCast, hten]
    field_simp
  . exact Nat.mul_ne_zero (Nat.ne_of_gt hpos) (Nat.ne_of_gt (Nat.pow_pos (by decide)))

theorem match_search_eq (rank : Fin (2047 * 2 ^ 52)) (tries : Nat) (value : Nat × Nat)
    : (match value with
        | (num, den) =>
          match search rank (magnitude num den) tries 1 with
          | some d => strip tries d
          | none => exact num den)
      = ((search rank (magnitude value.1 value.2) tries 1).map (strip tries)).getD
        (exact value.1 value.2) := by
  obtain ⟨num, den⟩ := value
  dsimp only
  cases search rank (magnitude num den) tries 1 with
  | none => rfl
  | some d => rfl

-- stated of the function, so that nothing is reduced under the value of a rank
theorem shortest_def
    : shortest = fun rank =>
      let (num, den) := Double.ratio rank.val
      match search rank (magnitude num den) 17 1 with
      | some d => strip 17 d
      | none => exact num den := rfl

theorem shortest_eq (rank : Fin (2047 * 2 ^ 52))
    : shortest rank
      = ((search rank (magnitude (Double.ratio rank).1 (Double.ratio rank).2) 17 1).map
        (strip 17)).getD
          (exact (Double.ratio rank).1 (Double.ratio rank).2) := by
  rw [shortest_def]
  exact match_search_eq rank 17 (Double.ratio rank)

theorem shortest_readsBack {rank : Fin (2047 * 2 ^ 52)} (h : 0 < rank.val)
    : (shortest rank).readsBack rank = true := by
  rw [shortest_eq]
  cases hfound : search rank (magnitude (Double.ratio rank).1 (Double.ratio rank).2) 17 1 with
  | none => exact exact_readsBack h
  | some d =>
    rw [Option.map_some, Option.getD_some, strip_readsBack]
    exact search_readsBack hfound

theorem shortest_digits_ne_zero {rank : Fin (2047 * 2 ^ 52)} (h : 0 < rank.val)
    : (shortest rank).digits ≠ 0 := by
  have hread := readsBack_iff.mp (shortest_readsBack h)
  intro hzero
  unfold ofDecimal at hread
  rw [if_pos hzero] at hread
  injection hread with _ hrank
  rw [← hrank] at h
  exact absurd h (Nat.lt_irrefl 0)

end Decimal

end Double

end DocStore
