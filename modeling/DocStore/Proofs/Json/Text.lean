import DocStore.Json.Reader
import DocStore.Json.Writer

/-!
This module contains the proof that the reader of JSON texts reads a written text between quotes as
the text.
-/

namespace DocStore

namespace Json

def pieceOf (c : Char) : Piece :=
  if 32 ≤ c.toNat ∨ c.toNat ∈ [8, 9, 10, 12, 13] then .char c else .unit c.toNat

theorem hexDigits_control : ∀ n : Fin 32,
    (Text.hexDigits 4 n).length = 4 ∧ Text.hexNumber? (Text.hexDigits 4 n) = some n.val := by decide

theorem readPieces_unit (opening : Nat) {n : Nat} (hn : n < 32) {t : List Char} (ht : t ≠ [])
    : readPieces opening (unitEscape n ++ t) =
      readPieces.prepend (.unit n) (readPieces opening t) := by
  obtain ⟨hlength, hvalue⟩ := hexDigits_control ⟨n, hn⟩
  unfold unitEscape
  dsimp only at hlength hvalue
  generalize Text.hexDigits 4 n = s at hlength hvalue ⊢
  match s, hlength with
  | [a, b, c, d], _ =>
    have hhex : hex4? a b c d = some n := hvalue
    have hempty : t.isEmpty = false := List.isEmpty_eq_false_iff.mpr ht
    simp only [List.cons_append, List.nil_append, readPieces, hhex, hempty]
    rfl

theorem readPieces_letter (opening : Nat) {e c : Char} (h : simpleEscape? e = some c)
    (t : List Char)
    : readPieces opening ('\\' :: e :: t) = readPieces.prepend (.char c)
      (readPieces opening t) := by
  have he : e ≠ 'u' := by
    intro he
    rw [he] at h
    cases h
  rw [readPieces.eq_def]
  split
  next heq => cases heq
  next heq => cases heq
  next heq =>
    cases heq
    exact absurd rfl he
  next heq =>
    cases heq
    exact absurd rfl he
  next heq =>
    cases heq
    rw [h]
  next heq => cases heq
  next hescape _ heq =>
    injection heq with hslash htail
    exact (hescape _ _ hslash.symm htail.symm).elim

theorem readPieces_plain (opening : Nat) {c : Char} (hquote : c ≠ '"') (hslash : c ≠ '\\')
    (hc : 32 ≤ c.toNat)
    (t : List Char)
    : readPieces opening (c :: t) = readPieces.prepend (.char c) (readPieces opening t) := by
  rw [readPieces.eq_def]
  split
  next heq => cases heq
  next heq =>
    cases heq
    exact absurd rfl hquote
  next heq =>
    cases heq
    exact absurd rfl hslash
  next heq =>
    cases heq
    exact absurd rfl hslash
  next heq =>
    cases heq
    exact absurd rfl hslash
  next heq =>
    cases heq
    exact absurd rfl hslash
  next heq =>
    cases heq
    rw [if_neg (by omega)]

theorem readPieces_writeChar (opening : Nat) (c : Char) {t : List Char} (ht : t ≠ [])
    : readPieces opening (writeChar false c ++ t) =
      readPieces.prepend (pieceOf c) (readPieces opening t) := by
  have hchar : 32 ≤ c.toNat ∨ c.toNat ∈ [8, 9, 10, 12, 13] → pieceOf c = .char c :=
    fun h => if_pos h
  have hletter : ∀ {letter : Char}, simpleEscape? letter = some c →
      32 ≤ c.toNat ∨ c.toNat ∈ [8, 9, 10, 12, 13] →
      readPieces opening ('\\' :: letter :: t) =
          readPieces.prepend (pieceOf c) (readPieces opening t) := by
    intro letter hletter hc
    rw [hchar hc]
    exact readPieces_letter opening hletter t
  -- the letters that have an escape of their own, the other controls, and the rest
  unfold writeChar
  split
  next h => exact hletter (by rw [h]; rfl) (by rw [h]; decide)
  split
  next h => exact hletter (by rw [h]; rfl) (by rw [h]; decide)
  split
  next h => exact hletter (by rw [h]; rfl) (by rw [h]; decide)
  split
  next h => exact hletter (by rw [h]; rfl) (by rw [h]; decide)
  split
  next h => exact hletter (by rw [h]; rfl) (by rw [h]; decide)
  split
  next h =>
    have hc : c = Char.ofNat 8 := by rw [← h, Char.ofNat_toNat]
    exact hletter (by rw [hc]; rfl) (by rw [h]; decide)
  split
  next h =>
    have hc : c = Char.ofNat 12 := by rw [← h, Char.ofNat_toNat]
    exact hletter (by rw [hc]; rfl) (by rw [h]; decide)
  split
  next hnewline hreturn htab hback hfeed hlt =>
    have hne : ∀ n, c ≠ Char.ofNat n → c.toNat ≠ n := by
      intro n hn heq
      rw [← heq, Char.ofNat_toNat] at hn
      exact hn rfl
    have hunit : pieceOf c = .unit c.toNat := by
      have := hne 10 hnewline
      have := hne 13 hreturn
      have := hne 9 htab
      apply if_neg
      simp only [List.mem_cons, List.not_mem_nil, or_false]
      omega
    rw [hunit]
    exact readPieces_unit opening hlt ht
  next hquote hslash _ _ _ _ _ hge =>
    rw [if_pos (.inr rfl), hchar (.inl (by omega))]
    exact readPieces_plain opening hquote hslash (by omega) t

theorem readPieces_text (opening : Nat) (s rest : List Char)
    : readPieces opening (s.flatMap (writeChar false) ++ '"' :: rest) =
      .ok (s.map pieceOf, rest) := by
  induction s with
  | nil => rw [List.flatMap_nil, List.nil_append, readPieces, List.map_nil]
  | cons c s ih =>
    rw [List.flatMap_cons, List.append_assoc, readPieces_writeChar opening c (by simp), ih]
    rfl

theorem unitChar_control {n : Nat} (h : n < 32) : unitChar n = Char.ofNat n := by
  have hhigh : isHighSurrogate n = false := by
    unfold isHighSurrogate
    rw [decide_eq_false_iff_not]
    omega
  have hlow : isLowSurrogate n = false := by
    unfold isLowSurrogate
    rw [decide_eq_false_iff_not]
    omega
  unfold unitChar
  rw [hhigh, hlow, if_neg (by simp)]

theorem joinPieces_pieceOf (s : List Char) : joinPieces (s.map pieceOf) = s := by
  induction s with
  | nil => rfl
  | cons c s ih =>
    rw [List.map_cons]
    by_cases h : 32 ≤ c.toNat ∨ c.toNat ∈ [8, 9, 10, 12, 13]
    . have hpiece : pieceOf c = .char c := if_pos h
      rw [hpiece, joinPieces, ih]
    . have hpiece : pieceOf c = .unit c.toNat := if_neg h
      have hlt : c.toNat < 32 := by omega
      have hhigh : isHighSurrogate c.toNat = false := by
        unfold isHighSurrogate
        rw [decide_eq_false_iff_not]
        omega
      rw [hpiece, joinPieces.eq_def]
      split
      next heq => cases heq
      next heq => cases heq
      next heq =>
        injection heq with hunit htail
        injection hunit with hunit
        rw [← hunit, hhigh, Bool.false_and, if_neg (by decide), unitChar_control hlt,
          Char.ofNat_toNat, ← htail, ih]
      next heq =>
        cases heq
        rw [unitChar_control hlt, Char.ofNat_toNat, ih]

theorem readText_text (opening : Nat) (s rest : List Char)
    : readText opening (s.flatMap (writeChar false) ++ '"' :: rest) = .ok (s, rest) := by
  unfold readText
  rw [readPieces_text]
  change Except.ok (joinPieces (s.map pieceOf), rest) = _
  rw [joinPieces_pieceOf]

end Json

end DocStore
