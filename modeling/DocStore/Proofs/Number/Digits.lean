import DocStore.Calendar.Moment
import DocStore.Proofs.Number.Bound
import DocStore.Proofs.Number.Written

/-!
This module contains the proof that a written integer is read as itself.
-/

namespace DocStore

theorem isDigit_iff {c : Char} : c.isDigit = true ↔ 48 ≤ c.toNat ∧ c.toNat ≤ 57 := by
  have hc : c.toNat = c.val.toNat := rfl
  simp only [Char.isDigit, Bool.and_eq_true, decide_eq_true_eq, ge_iff_le,
    UInt32.le_iff_toNat_le, hc]
  exact Iff.rfl

theorem digit?_of_isDigit {c : Char} (h : c.isDigit = true)
    : Text.digit? c = some (c.toNat - '0'.toNat) := by
  rw [isDigit_iff] at h
  unfold Text.digit? Text.zeros
  rw [List.find?_cons, decide_eq_true (by omega)]
  rfl

theorem isBlank_of_isNumeralChar {c : Char} (h : isNumeralChar c = true)
    : Text.isBlank c = false := by
  have hrange : 43 ≤ c.toNat ∧ c.toNat ≤ 101 := by
    simp only [isNumeralChar, Bool.or_eq_true, decide_eq_true_eq, isDigit_iff] at h
    rcases h with (((h | h) | h) | h) | h
    . omega
    all_goals
      rw [h]
      decide
  unfold Text.isBlank Text.blanks
  simp only [List.contains_eq_mem, List.mem_cons, List.not_mem_nil, or_false,
    decide_eq_false_iff_not]
  omega

theorem isDigit_toDigits {n : Nat} {c : Char} (h : c ∈ Nat.toDigits 10 n) : c.isDigit = true :=
  Nat.isDigit_of_mem_toDigits (by decide) (by decide) h

namespace Numeral

theorem digitValue?_of_isDigit {c : Char} (h : c.isDigit = true)
    : digitValue? 10 c = some (c.toNat - '0'.toNat) := by
  have hrange := isDigit_iff.mp h
  have hsmall : ¬ ('a' ≤ c ∧ c ≤ 'z') := by
    rintro ⟨ha, _⟩
    have : 'a'.toNat ≤ c.toNat := UInt32.le_iff_toNat_le.mp ha
    have : 'a'.toNat = 97 := rfl
    omega
  have hlarge : ¬ ('A' ≤ c ∧ c ≤ 'Z') := by
    rintro ⟨ha, _⟩
    have : 'A'.toNat ≤ c.toNat := UInt32.le_iff_toNat_le.mp ha
    have : 'A'.toNat = 65 := rfl
    omega
  unfold digitValue?
  dsimp only
  rw [if_neg hsmall, if_neg hlarge, digit?_of_isDigit h]
  have hten : c.toNat - '0'.toNat < 10 := by
    have : '0'.toNat = 48 := rfl
    omega
  rw [Option.bind_some, if_pos hten]

theorem digits_go_of_isDigit {s : List Char} (h : ∀ c ∈ s, c.isDigit = true) (value count : Nat)
    : digits.go 10 value count s = (Nat.ofDigitChars 10 s value, count + s.length, []) := by
  induction s generalizing value count with
  | nil =>
    rw [digits.go.eq_def, Nat.ofDigitChars_nil]
    rfl
  | cons c s ih =>
    rw [digits.go.eq_def]
    dsimp only
    rw [digitValue?_of_isDigit (h c (List.mem_cons_self ..))]
    dsimp only
    rw [ih fun d hd => h d (List.mem_cons_of_mem _ hd), Nat.ofDigitChars_cons, List.length_cons]
    congr 2
    omega

theorem digits_toDigits (n : Nat)
    : digits 10 (Nat.toDigits 10 n) = (n, (Nat.toDigits 10 n).length, []) := by
  unfold digits
  rw [digits_go_of_isDigit fun c hc => isDigit_toDigits hc, Nat.ofDigitChars_ten_toDigits,
    Nat.zero_add]

theorem dropWhile_isPadding {s : List Char} (h : ∀ c ∈ s, Text.isBlank c = false)
    : s.dropWhile isPadding = s := by
  cases s with
  | nil => rfl
  | cons c s =>
    rw [List.dropWhile_cons_of_neg]
    simp [isPadding, h c (List.mem_cons_self ..)]

theorem trim_eq_self {s : List Char} (h : ∀ c ∈ s, Text.isBlank c = false) : trim s = s := by
  unfold trim
  rw [dropWhile_isPadding h, dropWhile_isPadding, List.reverse_reverse]
  intro c hc
  exact h c (List.mem_reverse.mp hc)

theorem length_toDigits_le {n : Nat} (h : isLong n = false)
    : (Nat.toDigits 10 n).length ≤ maxDigits := by
  unfold isLong at h
  rw [decide_eq_false_iff_not, Int.natAbs_natCast] at h
  exact (Nat.length_toDigits_le_iff (by decide) (by decide)).mpr (Nat.lt_of_not_le h)

theorem sign_toDigits (n : Nat) : sign (Nat.toDigits 10 n) = (false, Nat.toDigits 10 n) := by
  have hdigit : ∀ c ∈ Nat.toDigits 10 n, c.isDigit = true := fun c hc => isDigit_toDigits hc
  unfold sign
  split
  next heq =>
    rw [heq] at hdigit
    exact absurd (hdigit '-' (List.mem_cons_self ..)) (by decide)
  next heq =>
    rw [heq] at hdigit
    exact absurd (hdigit '+' (List.mem_cons_self ..)) (by decide)
  . rfl

theorem readInteger_text {n : Int} (h : isLong n = false) : readInteger (text n) = .value n := by
  have hread : ∀ (negative : Bool) (k : Nat), isLong k = false →
      sign (text n) = (negative, Nat.toDigits 10 k) →
          readInteger (text n) = .value (if negative then -(k : Int) else k) := by
    intro negative k hk hsign
    have hpos : (Nat.toDigits 10 k).length ≠ 0 := by
      have := Nat.length_toDigits_pos (b := 10) (n := k)
      omega
    have hle := length_toDigits_le hk
    unfold readInteger
    rw [trim_eq_self fun c hc => isBlank_of_isNumeralChar (isNumeralChar_text hc), hsign]
    dsimp only
    rw [digits_toDigits]
    dsimp only
    rw [if_neg hpos, if_neg (by omega)]
  cases n with
  | ofNat k => exact hread false k h (sign_toDigits k)
  | negSucc k => exact hread true (k + 1) h rfl

theorem digits_point (s : List Char) : digits 10 ('.' :: s) = (0, 0, '.' :: s) := by
  have hpoint : digitValue? 10 '.' = none := by decide
  unfold digits
  rw [digits.go.eq_def]
  dsimp only
  rw [hpoint]
  dsimp only
  rw [if_neg (by decide)]

theorem readDouble?_fraction {s : List Char} (hne : s ≠ []) (h : ∀ c ∈ s, c.isDigit = true)
    : readDouble? ('.' :: s) =
      some (.ofDecimal false (Nat.ofDigitChars 10 s 0) (-(s.length : Int))) := by
  have hblank : ∀ c ∈ '.' :: s, Text.isBlank c = false := by
    intro c hc
    apply isBlank_of_isNumeralChar
    rw [List.mem_cons] at hc
    cases hc with
    | inl hc =>
      rw [hc]
      decide
    | inr hc => simp [isNumeralChar, h c hc]
  have hword : ∀ w : String, w.toList.head? ≠ some '.' →
      String.ofList (('.' :: s).map Char.toLower) ≠ w := by
    intro w hw heq
    rw [← heq, String.toList_ofList] at hw
    exact hw rfl
  have hlength : s.length ≠ 0 := by
    have := List.length_pos_iff.mpr hne
    omega
  unfold readDouble?
  rw [trim_eq_self hblank]
  have hsign : sign ('.' :: s) = (false, '.' :: s) := rfl
  rw [hsign]
  dsimp only
  rw [if_neg (hword "nan" (by decide)), if_neg, digits_point]
  . have hdigits : digits 10 s = (Nat.ofDigitChars 10 s 0, s.length, []) := by
      rw [← Nat.zero_add s.length]
      exact digits_go_of_isDigit h 0 0
    simp only [hdigits, Nat.zero_mul, Nat.zero_add]
    rw [if_neg hlength]
  . rintro (heq | heq)
    . exact hword "inf" (by decide) heq
    . exact hword "infinity" (by decide) heq

end Numeral

end DocStore
