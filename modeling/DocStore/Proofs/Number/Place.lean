import DocStore.Proofs.Number.Nearest

/-!
This module contains the places of numbers in their order, and the rounding of integers to numbers:
it keeps the order but not the difference, and fails from a bound on.
-/

namespace DocStore

namespace Double

theorem roundQuotient_bounds (num den : Nat)
    : num / den ≤ roundQuotient num den ∧ roundQuotient num den ≤ num / den + 1 := by
  unfold roundQuotient
  dsimp only
  split_ifs <;> omega

theorem roundQuotient_mono {num num' : Nat} (h : num ≤ num') (den : Nat)
    : roundQuotient num den ≤ roundQuotient num' den := by
  have hdiv : num / den ≤ num' / den := Nat.div_le_div_right h
  by_cases hq : num / den = num' / den
  . have hrest : num % den ≤ num' % den := by
      have hnum := Nat.div_add_mod num den
      have hnum' := Nat.div_add_mod num' den
      rw [hq] at hnum
      omega
    unfold roundQuotient
    dsimp only
    rw [hq]
    split_ifs <;> omega
  . have hupper := (roundQuotient_bounds num den).2
    have hlower := (roundQuotient_bounds num' den).1
    omega

theorem rankOfRatio_nat {n : Nat} (hn : 0 < n)
    : rankOfRatio n 1 = (n.log2 + 1022) * 2 ^ 52 + roundQuotient (n * 2 ^ 52) (2 ^ n.log2) := by
  have hlog : floorLog2 n 1 = n.log2 := by
    unfold floorLog2
    have hone : Nat.log2 1 = 0 := by decide
    rw [hone]
    dsimp only
    simp only [Int.natCast_zero, Int.sub_zero]
    rw [if_pos (by rw [Nat.one_mul]; exact Nat.log2_self_le (by omega))]
  unfold rankOfRatio
  rw [if_neg (by omega), hlog]
  split
  next e he =>
    have hsum : n.log2 = e + 52 := by
      have hmax : (n.log2 : Int) - 52 = e := by
        change _ = (e : Int) at he
        omega
      omega
    rw [hsum, Nat.one_mul, pow_add, roundQuotient_scale (by decide)]
  next e he =>
    have hsum : n.log2 + (e + 1) = 52 := by omega
    have hscale := roundQuotient_scale (k := 2 ^ n.log2) (by positivity) (n * 2 ^ (e + 1)) 1
    rw [Nat.one_mul, Nat.mul_assoc, ← pow_add, Nat.add_comm (e + 1), hsum] at hscale
    rw [hscale]
    congr 2
    omega

theorem rankOfRatio_nat_bounds {n : Nat} (hn : 0 < n)
    : (n.log2 + 1023) * 2 ^ 52 ≤ rankOfRatio n 1 ∧ rankOfRatio n 1 ≤ (n.log2 + 1024) * 2 ^ 52 := by
  have hpow : 0 < 2 ^ n.log2 := by positivity
  have hlower : 2 ^ 52 * 2 ^ n.log2 ≤ n * 2 ^ 52 := by
    rw [Nat.mul_comm n]
    exact Nat.mul_le_mul_left _ (Nat.log2_self_le (by omega))
  have hupper : n * 2 ^ 52 ≤ 2 ^ 53 * 2 ^ n.log2 := by
    have hlt : n < 2 ^ (n.log2 + 1) := Nat.lt_log2_self
    rw [pow_succ] at hlt
    omega
  have hlower' := roundQuotient_mono hlower (2 ^ n.log2)
  have hupper' := roundQuotient_mono hupper (2 ^ n.log2)
  rw [roundQuotient_exact hpow] at hlower' hupper'
  rw [rankOfRatio_nat hn]
  constructor
  . have hsplit : (n.log2 + 1023) * 2 ^ 52 = (n.log2 + 1022) * 2 ^ 52 + 2 ^ 52 := Nat.succ_mul ..
    rw [hsplit]
    exact Nat.add_le_add_left hlower' _
  . have hsplit : (n.log2 + 1024) * 2 ^ 52 = (n.log2 + 1022) * 2 ^ 52 + 2 ^ 53 := Nat.add_mul _ 2 _
    rw [hsplit]
    exact Nat.add_le_add_left hupper' _

theorem rankOfRatio_nat_mono {m n : Nat} (h : m ≤ n) : rankOfRatio m 1 ≤ rankOfRatio n 1 := by
  by_cases hm : m = 0
  . have hzero : rankOfRatio 0 1 = 0 := by
      unfold rankOfRatio
      exact if_pos rfl
    rw [hm, hzero]
    exact Nat.zero_le _
  . have hm' : 0 < m := Nat.pos_of_ne_zero hm
    have hn : 0 < n := by omega
    have hlog : m.log2 ≤ n.log2 := by
      rw [Nat.le_log2 (by omega)]
      exact (Nat.log2_self_le hm).trans h
    -- the ranks of one logarithm end where those of the next one begin
    by_cases heq : m.log2 = n.log2
    . rw [rankOfRatio_nat hm', rankOfRatio_nat hn, heq]
      exact Nat.add_le_add_left (roundQuotient_mono (Nat.mul_le_mul_right _ h) _) _
    . have hupper := (rankOfRatio_nat_bounds hm').2
      have hlower := (rankOfRatio_nat_bounds hn).1
      omega

def place : Double → Int
  | .nan => 0
  | .infinite negative => if negative then -(2047 * 2 ^ 52) else 2047 * 2 ^ 52
  | .finite negative rank => if negative then -(rank.val : Int) else rank.val

theorem place_finite (negative : Bool) (rank : Fin (2047 * 2 ^ 52))
    : -(2047 * 2 ^ 52) < (finite negative rank).place ∧
      (finite negative rank).place < 2047 * 2 ^ 52 := by
  have h := rank.isLt
  unfold place
  dsimp only
  split <;> omega

theorem compare_natCast (m n : Nat) : compare (m : Int) n = compare m n := by
  rcases lt_trichotomy m n with h | h | h
  . rw [compare_lt_iff_lt.mpr h, compare_lt_iff_lt.mpr (Int.ofNat_lt.mpr h)]
  . rw [compare_eq_iff_eq.mpr h, compare_eq_iff_eq.mpr (Int.ofNat_inj.mpr h)]
  . rw [compare_gt_iff_gt.mpr h, compare_gt_iff_gt.mpr (Int.ofNat_lt.mpr h)]

theorem compare_neg (m n : Int) : compare (-m) (-n) = compare n m := by
  rcases lt_trichotomy m n with h | h | h
  . rw [compare_gt_iff_gt.mpr h, compare_gt_iff_gt.mpr (Int.neg_lt_neg h)]
  . rw [compare_eq_iff_eq.mpr h.symm, compare_eq_iff_eq.mpr (congrArg Neg.neg h)]
  . rw [compare_lt_iff_lt.mpr h, compare_lt_iff_lt.mpr (Int.neg_lt_neg h)]

theorem order?_nan_right (x : Double) : x.order? .nan = none := by
  cases x <;> rfl

theorem order?_eq {x y : Double} (hx : x ≠ .nan) (hy : y ≠ .nan)
    : x.order? y = some (compare x.place y.place) := by
  have hlt : ∀ m n : Int, m < n → some Ordering.lt = some (compare m n) :=
    fun m n h => congrArg some (compare_lt_iff_lt.mpr h).symm
  have hgt : ∀ m n : Int, n < m → some Ordering.gt = some (compare m n) :=
    fun m n h => congrArg some (compare_gt_iff_gt.mpr h).symm
  cases x with
  | nan => exact absurd rfl hx
  | infinite a =>
    cases y with
    | nan => exact absurd rfl hy
    | infinite b => cases a <;> cases b <;> rfl
    | finite b s =>
      cases a with
      | false => exact hgt _ _ (place_finite b s).2
      | true => exact hlt _ _ (place_finite b s).1
  | finite a r =>
    cases y with
    | nan => exact absurd rfl hy
    | infinite b =>
      cases b with
      | false => exact hlt _ _ (place_finite a r).2
      | true => exact hgt _ _ (place_finite a r).1
    | finite b s =>
      -- numbers of different signs are apart unless both are zero
      cases a with
      | false =>
        cases b with
        | false => exact congrArg some (compare_natCast r.val s.val).symm
        | true =>
          by_cases hzero : r.val = 0 ∧ s.val = 0
          . simp [order?, place, hzero]
          . simp only [order?, place, if_neg hzero]
            exact hgt _ _ (by simp; omega)
      | true =>
        cases b with
        | false =>
          by_cases hzero : r.val = 0 ∧ s.val = 0
          . simp [order?, place, hzero]
          . simp only [order?, place, if_neg hzero]
            exact hlt _ _ (by simp; omega)
        | true =>
          simp only [order?, place, if_pos]
          rw [compare_neg, compare_natCast]

theorem order?_swap (x y : Double) : y.order? x = (x.order? y).map Ordering.swap := by
  by_cases hx : x = .nan
  . rw [hx, order?_nan_right]
    rfl
  . by_cases hy : y = .nan
    . rw [hy, order?_nan_right]
      rfl
    . have hswap : compare y.place x.place = (compare x.place y.place).swap :=
        Std.OrientedCmp.eq_swap
      rw [order?_eq hx hy, order?_eq hy hx, Option.map_some, hswap]

theorem eq_of_place {x y : Double} (hx : x ≠ .nan) (hy : y ≠ .nan) (hzero : x.place ≠ 0)
    (h : x.place = y.place)
    : x = y := by
  cases x with
  | nan => exact absurd rfl hx
  | infinite a =>
    cases y with
    | nan => exact absurd rfl hy
    | infinite b => cases a <;> cases b <;> first | rfl | exact absurd h (by decide)
    | finite b s =>
      have hs := place_finite b s
      rw [← h] at hs
      cases a <;> simp [place] at hs
  | finite a r =>
    have hr := place_finite a r
    cases y with
    | nan => exact absurd rfl hy
    | infinite b =>
      rw [h] at hr
      cases b <;> simp [place] at hr
    | finite b s =>
      cases a <;> cases b <;> simp [place] at h hzero <;>
        first | omega | (congr 1; exact Fin.ext (by omega))

def roundedPlace (n : Int) : Int :=
  if n < 0 then -(rankOfRatio n.natAbs 1 : Int) else rankOfRatio n.natAbs 1

theorem roundedPlace_mono {m n : Int} (h : m ≤ n) : roundedPlace m ≤ roundedPlace n := by
  unfold roundedPlace
  split
  next hm =>
    split
    next hn =>
      have habs : rankOfRatio n.natAbs 1 ≤ rankOfRatio m.natAbs 1 := rankOfRatio_nat_mono (by omega)
      omega
    next hn => omega
  next hm =>
    have habs : rankOfRatio m.natAbs 1 ≤ rankOfRatio n.natAbs 1 := rankOfRatio_nat_mono (by omega)
    rw [if_neg (by omega)]
    omega

theorem roundedPlace_ne_zero {n : Int} (h : n ≠ 0) : roundedPlace n ≠ 0 := by
  have hpos : 0 < rankOfRatio n.natAbs 1 := by
    have hbound := (rankOfRatio_nat_bounds (n := n.natAbs) (by omega)).1
    have hleast : 0 < (n.natAbs.log2 + 1023) * 2 ^ 52 := by positivity
    omega
  unfold roundedPlace
  split <;> omega

theorem ofInt?_eq_some {n : Int} {x : Double} (h : ofInt? n = some x)
    : x ≠ .nan ∧ x.place = roundedPlace n := by
  unfold ofInt? ofRational ofRatio at h
  dsimp only at h
  split at h
  . cases h
  next hx =>
    cases h
    split
    . refine ⟨nofun, ?_⟩
      unfold place roundedPlace
      simp only [decide_eq_true_eq]
    next hlt =>
      rw [dif_neg hlt] at hx
      exact absurd rfl (hx _)

def leastHuge : Nat := 2 ^ 1024 - 2 ^ 970

theorem ofInt?_eq_none_iff {n : Int} : ofInt? n = none ↔ leastHuge ≤ n.natAbs := by
  have hrank : ofInt? n = none ↔ 2047 * 2 ^ 52 ≤ rankOfRatio n.natAbs 1 := by
    unfold ofInt? ofRational ofRatio
    dsimp only
    by_cases hlt : rankOfRatio n.natAbs 1 < 2047 * 2 ^ 52
    . rw [dif_pos hlt]
      exact ⟨nofun, fun h => absurd hlt (by omega)⟩
    . rw [dif_neg hlt]
      exact ⟨fun _ => Nat.le_of_not_lt hlt, fun _ => rfl⟩
  -- the ranks grow with the integers, so that it suffices to look at both sides of the bound
  have hleast : rankOfRatio leastHuge 1 = 2047 * 2 ^ 52 := by decide +kernel
  have hbelow : rankOfRatio (leastHuge - 1) 1 < 2047 * 2 ^ 52 := by decide +kernel
  rw [hrank]
  constructor
  . intro h
    by_contra hlt
    have hmono : rankOfRatio n.natAbs 1 ≤ rankOfRatio (leastHuge - 1) 1 :=
      rankOfRatio_nat_mono (by omega)
    omega
  . intro h
    rw [← hleast]
    exact rankOfRatio_nat_mono h

end Double

end DocStore
