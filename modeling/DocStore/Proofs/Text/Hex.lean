import Mathlib.Data.List.Induction
import DocStore.Value.Basic

/-!
This module contains the proof that hexadecimal digits are read as the number that they were written
for, and that what is read is written with the same digits, but in small letters.
-/

namespace DocStore

namespace Text

theorem hexValue?_digitChar
    : ∀ d : Fin 16, hexValue? (Nat.digitChar d.val) = some d.val := by decide

theorem hexNumber?_concat (s : List Char) (c : Char)
    : hexNumber? (s ++ [c]) = (hexNumber? s).bind fun n => (hexValue? c).map (16 * n + ·) := by
  unfold hexNumber?
  rw [List.foldl_append]
  rfl

theorem hexNumber?_append {s : List Char} {n : Nat} (h : hexNumber? s = some n) (c : Char)
    : hexNumber? (s ++ [c]) = (hexValue? c).map (16 * n + ·) := by
  rw [hexNumber?_concat, h, Option.bind_some]

theorem hexNumber?_zeros (k : Nat) (s : List Char)
    : hexNumber? (List.replicate k '0' ++ s) = hexNumber? s := by
  induction k with
  | zero => rfl
  | succ k ih =>
    rw [List.replicate_succ, List.cons_append, ← ih]
    rfl

theorem hexNumber?_toDigits (n : Nat) : hexNumber? (Nat.toDigits 16 n) = some n := by
  induction n using Nat.strongRecOn with
  | ind n ih =>
    have hlast := hexValue?_digitChar ⟨n % 16, Nat.mod_lt n (by decide)⟩
    dsimp only at hlast
    by_cases hn : n < 16
    . rw [Nat.mod_eq_of_lt hn] at hlast
      rw [Nat.toDigits_of_lt_base hn]
      change (hexValue? (Nat.digitChar n)).map (16 * 0 + ·) = some n
      rw [hlast]
      simp
    . rw [Nat.toDigits_of_base_le (by decide) (by omega),
        hexNumber?_append (ih (n / 16) (by omega)), hlast]
      rw [Option.map_some]
      congr 1
      omega

theorem hexNumber?_hexDigits (width n : Nat) : hexNumber? (hexDigits width n) = some n := by
  unfold hexDigits
  dsimp only
  rw [hexNumber?_zeros, hexNumber?_toDigits]

theorem length_hexDigits {width n : Nat} (hw : 0 < width) (h : n < 16 ^ width)
    : (hexDigits width n).length = width := by
  have hle := (Nat.length_toDigits_le_iff (b := 16) (by decide) hw).mpr h
  unfold hexDigits
  dsimp only
  rw [List.length_append, List.length_replicate]
  omega

def smallDigits : List Char := "0123456789abcdef".toList

theorem digitChar_mem_smallDigits : ∀ d : Fin 16, Nat.digitChar d.val ∈ smallDigits := by decide

theorem mem_smallDigits_of_toDigits {n : Nat} {c : Char} (h : c ∈ Nat.toDigits 16 n)
    : c ∈ smallDigits := by
  induction n using Nat.strongRecOn with
  | ind n ih =>
    by_cases hn : n < 16
    . rw [Nat.toDigits_of_lt_base hn, List.mem_singleton] at h
      rw [h]
      exact digitChar_mem_smallDigits ⟨n, hn⟩
    . rw [Nat.toDigits_of_base_le (by decide) (by omega), List.mem_append, List.mem_singleton] at h
      cases h with
      | inl h => exact ih (n / 16) (by omega) h
      | inr h =>
        rw [h]
        exact digitChar_mem_smallDigits ⟨n % 16, Nat.mod_lt n (by decide)⟩

theorem mem_smallDigits_of_hexDigits {width n : Nat} {c : Char} (h : c ∈ hexDigits width n)
    : c ∈ smallDigits := by
  unfold hexDigits at h
  dsimp only at h
  rw [List.mem_append] at h
  cases h with
  | inl h =>
    rw [List.eq_of_mem_replicate h]
    decide
  | inr h => exact mem_smallDigits_of_toDigits h

end Text

namespace ObjectId

/-- Whether a text is as long as the digits of an identifier, and has blanks among them. -/
def isSpaced (s : List Char) : Bool := s.length = 24 && s.any Text.isBlank

theorem length_hex (i : ObjectId) : i.hex.length = 24 := by
  have hlt : (i.bits : Nat) < 2 ^ 96 := i.bits.isLt
  exact Text.length_hexDigits (by decide) hlt

theorem ofHex?_hex (i : ObjectId) : ofHex? i.hex = some i := by
  have hlt : (i.bits : Nat) < 2 ^ 96 := i.bits.isLt
  unfold ofHex?
  rw [if_pos i.length_hex]
  unfold hex
  rw [Text.hexNumber?_hexDigits, Option.bind_some, dif_pos hlt]

theorem hex_injective {i j : ObjectId} (h : i.hex = j.hex) : i = j := by
  have hread := i.ofHex?_hex
  rw [h, j.ofHex?_hex] at hread
  exact (Option.some.inj hread).symm

end ObjectId

end DocStore
