import DocStore.Calendar.Civil

/-!
This module contains the proof that the civil date of a day leads back to the day, and the bounds of
its parts.
-/

namespace DocStore

namespace Civil

structure IsMade (days : Int) (cycle yearOfCycle monthFromMarch dayOfYear : Int) : Prop where
  year : 0 ≤ yearOfCycle ∧ yearOfCycle < 400
  month : 0 ≤ monthFromMarch ∧ monthFromMarch ≤ 11
  day : (153 * monthFromMarch + 2) / 5 ≤ dayOfYear ∧ dayOfYear ≤ (153 * monthFromMarch + 2) / 5 + 30
  count : days + 719468 = cycle * 146097 +
    (yearOfCycle * 365 + yearOfCycle / 4 - yearOfCycle / 100 + dayOfYear)
  date : ofDays days
    = ⟨yearOfCycle + cycle * 400 + (if monthFromMarch < 10 then 0 else 1),
        if monthFromMarch < 10 then monthFromMarch + 3 else monthFromMarch - 9,
        dayOfYear - (153 * monthFromMarch + 2) / 5 + 1⟩

theorem yearOfCycle_bounds {dayOfCycle year : Int} (h₀ : 0 ≤ dayOfCycle) (h₁ : dayOfCycle < 146097)
    (hyear : year = (dayOfCycle - dayOfCycle / 1460 + dayOfCycle / 36524 - dayOfCycle / 146096) /
      365)
    : 0 ≤ year ∧ year < 400 := by
  omega

theorem dayOfYear_bounds {dayOfCycle year : Int} (h₀ : 0 ≤ dayOfCycle) (h₁ : dayOfCycle < 146097)
    (hyear : year = (dayOfCycle - dayOfCycle / 1460 + dayOfCycle / 36524 - dayOfCycle / 146096) /
      365)
    : 0 ≤ dayOfCycle - (365 * year + year / 4 - year / 100)
      ∧ dayOfCycle - (365 * year + year / 4 - year / 100) ≤ 365 := by
  -- within one century the quotients are linear
  have hcentury : dayOfCycle / 36524 = 0 ∨ dayOfCycle / 36524 = 1 ∨ dayOfCycle / 36524 = 2
      ∨ dayOfCycle / 36524 = 3 ∨ dayOfCycle / 36524 = 4 := by omega
  have hlast : dayOfCycle / 146096 = 0 ∨ dayOfCycle / 146096 = 1 := by omega
  have hyears : year / 100 = 0 ∨ year / 100 = 1 ∨ year / 100 = 2 ∨ year / 100 = 3 := by omega
  rcases hcentury with hc | hc | hc | hc | hc <;> rcases hlast with hl | hl
    <;> rcases hyears with hy | hy | hy | hy <;> rw [hc, hl] at hyear <;> rw [hy] <;> omega

theorem ofDays_isMade (days : Int) : ∃ cycle year month day, IsMade days cycle year month day := by
  let dayOfCycle := (days + 719468) % 146097
  let year := (dayOfCycle - dayOfCycle / 1460 + dayOfCycle / 36524 - dayOfCycle / 146096) / 365
  let day := dayOfCycle - (365 * year + year / 4 - year / 100)
  have h₀ : 0 ≤ dayOfCycle := by omega
  have h₁ : dayOfCycle < 146097 := by omega
  have hyear : 0 ≤ year ∧ year < 400 := yearOfCycle_bounds h₀ h₁ rfl
  have hday : 0 ≤ day ∧ day ≤ 365 := dayOfYear_bounds h₀ h₁ rfl
  refine ⟨(days + 719468) / 146097, year, (5 * day + 2) / 153, day, hyear, ?_, ?_, ?_, ?_⟩
  . omega
  . omega
  . omega
  . have hdate : ofDays days
        = ⟨year + (days + 719468) / 146097 * 400
            + (if (if (5 * day + 2) / 153 < 10 then (5 * day + 2) / 153 + 3 else
              (5 * day + 2) / 153 - 9) ≤ 2
                then 1 else 0),
          if (5 * day + 2) / 153 < 10 then (5 * day + 2) / 153 + 3 else (5 * day + 2) / 153 - 9,
          day - (153 * ((5 * day + 2) / 153) + 2) / 5 + 1⟩ := rfl
    rw [hdate]
    congr 2
    split
    . rw [if_neg (by omega)]
    . rw [if_pos (by omega)]

theorem toDays_ofDays (days : Int) : (ofDays days).toDays = days := by
  obtain ⟨cycle, year, month, day, made⟩ := ofDays_isMade days
  obtain ⟨_, _⟩ := made.year
  obtain ⟨_, _⟩ := made.month
  have hcount := made.count
  rw [made.date]
  unfold toDays
  dsimp only
  by_cases hmonth : month < 10
  . rw [if_pos hmonth, if_pos hmonth, if_neg (by omega), if_neg (by omega)]
    omega
  . rw [if_neg hmonth, if_neg hmonth, if_pos (by omega), if_pos (by omega)]
    omega

theorem ofDays_isValid (days : Int) : (ofDays days).isValid = true := by
  unfold isValid
  rw [toDays_ofDays, decide_eq_true_eq]

theorem ofDays_month (days : Int) : 1 ≤ (ofDays days).month ∧ (ofDays days).month ≤ 12 := by
  obtain ⟨cycle, year, month, day, made⟩ := ofDays_isMade days
  obtain ⟨_, _⟩ := made.month
  rw [made.date]
  dsimp only
  split <;> omega

theorem ofDays_day (days : Int) : 1 ≤ (ofDays days).day ∧ (ofDays days).day ≤ 31 := by
  obtain ⟨cycle, year, month, day, made⟩ := ofDays_isMade days
  obtain ⟨_, _⟩ := made.day
  rw [made.date]
  dsimp only
  omega

theorem ofDays_year {days : Int} (h₀ : 0 ≤ days) (h₁ : days < toDays ⟨10000, 1, 1⟩)
    : 1970 ≤ (ofDays days).year ∧ (ofDays days).year ≤ 9999 := by
  have hlast : toDays ⟨10000, 1, 1⟩ = 2932897 := by decide
  rw [hlast] at h₁
  obtain ⟨cycle, year, month, day, made⟩ := ofDays_isMade days
  obtain ⟨_, _⟩ := made.year
  obtain ⟨_, _⟩ := made.month
  obtain ⟨_, _⟩ := made.day
  have hcount := made.count
  have hcycle : 4 ≤ cycle ∧ cycle ≤ 24 := by omega
  rw [made.date]
  dsimp only
  split <;> omega

end Civil

end DocStore
