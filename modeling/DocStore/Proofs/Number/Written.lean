import DocStore.Json.Writer

/-!
This module contains the letters of written numbers: digits, signs, a point and the mark of an
exponent.
-/

namespace DocStore

def isNumeralChar (c : Char) : Bool := c.isDigit || c = '-' || c = '+' || c = '.' || c = 'e'

theorem isNumeralChar_toDigits {n : Nat} {c : Char} (h : c ∈ Nat.toDigits 10 n)
    : isNumeralChar c = true := by
  have := Nat.isDigit_of_mem_toDigits (by decide) (by decide) h
  simp [isNumeralChar, this]

theorem isNumeralChar_replicate {n : Nat} {c : Char} (h : c ∈ List.replicate n '0')
    : isNumeralChar c = true := by
  rw [List.eq_of_mem_replicate h]
  decide

theorem Numeral.isNumeralChar_text {n : Int} {c : Char} (h : c ∈ Numeral.text n)
    : isNumeralChar c = true := by
  unfold Numeral.text at h
  split at h
  . exact isNumeralChar_toDigits h
  . rw [List.mem_cons] at h
    cases h with
    | inl h =>
      rw [h]
      decide
    | inr h => exact isNumeralChar_toDigits h

namespace Double

theorem isNumeralChar_pad {width n : Nat} {c : Char} (h : c ∈ Layout.pad width (Nat.toDigits 10 n))
    : isNumeralChar c = true := by
  unfold Layout.pad at h
  rw [List.mem_append] at h
  cases h with
  | inl h => exact isNumeralChar_replicate h
  | inr h => exact isNumeralChar_toDigits h

theorem isNumeralChar_render {l : Layout} {d : Decimal} {c : Char} (h : c ∈ l.render d)
    : isNumeralChar c = true := by
  have hdigits : ∀ e ∈ Nat.toDigits 10 d.digits, isNumeralChar e = true :=
    fun e he => isNumeralChar_toDigits he
  have hpoint : isNumeralChar '.' = true := by decide
  unfold Layout.render at h
  dsimp only at h
  split at h
  . split at h
    . simp only [List.cons_append, List.mem_cons, List.mem_append] at h
      rcases h with h | h | h | h
      . rw [h]
        decide
      . rw [h]
        exact hpoint
      . exact isNumeralChar_replicate h
      . exact hdigits c h
    . split at h
      . simp only [List.mem_cons, List.mem_append, List.not_mem_nil, or_false] at h
        rcases h with (h | h) | h | h
        . exact hdigits c h
        . exact isNumeralChar_replicate h
        . rw [h]
          exact hpoint
        . rw [h]
          decide
      . simp only [List.mem_cons, List.mem_append] at h
        rcases h with h | h | h
        . exact hdigits c (List.mem_of_mem_take h)
        . rw [h]
          exact hpoint
        . exact hdigits c (List.mem_of_mem_drop h)
  . simp only [List.mem_cons, List.mem_append] at h
    rcases h with h | h | h | h
    . split at h
      next e he =>
        rw [he] at hdigits
        exact hdigits c h
      next e r he =>
        rw [he] at hdigits
        simp only [List.mem_cons] at h
        rcases h with h | h | h
        . exact hdigits c (by simp [h])
        . rw [h]
          exact hpoint
        . exact hdigits c (by simp [h])
      next => cases h
    . rw [h]
      decide
    . rw [h]
      split <;> decide
    . exact isNumeralChar_pad h

theorem isNumeralChar_text {negative : Bool} {rank : Fin (2047 * 2 ^ 52)} {c : Char}
    (h : c ∈ (finite negative rank).text) : isNumeralChar c = true := by
  have hbody : ∀ e ∈ (if rank = 0 then "0.0".toList else layout.render (Decimal.shortest rank)),
      isNumeralChar e = true := by
    intro e he
    split at he
    . have hzero : "0.0".toList.all isNumeralChar = true := by decide
      exact List.all_eq_true.mp hzero e he
    . exact isNumeralChar_render he
  unfold text at h
  dsimp only at h
  split at h
  . rw [List.mem_cons] at h
    cases h with
    | inl h =>
      rw [h]
      decide
    | inr h => exact hbody c h
  . exact hbody c h

end Double

end DocStore
