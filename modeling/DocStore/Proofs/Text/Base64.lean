import DocStore.Text.Base64

/-!
This module contains the proof that bytes are read from base 64 as they were written, whole groups
of three bytes first and then what is left.
-/

namespace DocStore.Text

theorem sextet?_sextetChar
    : ∀ n : Fin 64, sextet? (sextetChar n.val) = some n.val ∧ sextetChar n.val ≠ '=' := by
  decide

section

variable {n : Nat} (hn : n < 64) (left count : Nat) (rest : List Char)
include hn

theorem go_first
    : base64Decode.go ⟨0, left, 0, count⟩ (sextetChar n :: rest) =
      base64Decode.go ⟨1, n, 0, count⟩ rest := by
  obtain ⟨hvalue, hne⟩ := sextet?_sextetChar ⟨n, hn⟩
  rw [base64Decode.go, if_neg hne, hvalue]
  rfl

theorem go_second
    : base64Decode.go ⟨1, left, 0, count⟩ (sextetChar n :: rest)
      = base64Decode.emit (left * 4 + n / 16) (base64Decode.go ⟨2, n % 16, 0, count + 1⟩ rest) := by
  obtain ⟨hvalue, hne⟩ := sextet?_sextetChar ⟨n, hn⟩
  rw [base64Decode.go, if_neg hne, hvalue]
  rfl

theorem go_third
    : base64Decode.go ⟨2, left, 0, count⟩ (sextetChar n :: rest)
      = base64Decode.emit (left * 16 + n / 4) (base64Decode.go ⟨3, n % 4, 0, count + 1⟩ rest) := by
  obtain ⟨hvalue, hne⟩ := sextet?_sextetChar ⟨n, hn⟩
  rw [base64Decode.go, if_neg hne, hvalue]
  rfl

theorem go_fourth
    : base64Decode.go ⟨3, left, 0, count⟩ (sextetChar n :: rest)
      = base64Decode.emit (left * 64 + n) (base64Decode.go ⟨0, 0, 0, count + 1⟩ rest) := by
  obtain ⟨hvalue, hne⟩ := sextet?_sextetChar ⟨n, hn⟩
  rw [base64Decode.go, if_neg hne, hvalue]
  rfl

end

theorem emit_byte {b : UInt8} (h : n = b.toNat) (bs : List UInt8)
    : base64Decode.emit n (.ok bs) = .ok (b :: bs) := by
  unfold base64Decode.emit
  rw [h, UInt8.ofNat_toNat]
  rfl

theorem go_base64Encode (bs : List UInt8) (count : Nat)
    : base64Decode.go ⟨0, 0, 0, count⟩ (base64Encode bs) = .ok bs := by
  induction bs using base64Encode.induct generalizing count with
  | case1 => rfl
  | case2 a =>
    have ha := a.toNat_lt
    have hend : ∀ left count, base64Decode.go ⟨2, left, 0, count⟩ ['=', '='] = .ok [] :=
      fun _ _ => rfl
    rw [base64Encode, go_first (by omega), go_second (by omega), hend, @emit_byte _ a (by omega)]
  | case3 a b =>
    have ha := a.toNat_lt
    have hb := b.toNat_lt
    have hend : ∀ left count, base64Decode.go ⟨3, left, 0, count⟩ ['='] = .ok [] := fun _ _ => rfl
    rw [base64Encode, go_first (by omega), go_second (by omega), go_third (by omega), hend]
    rw [@emit_byte _ b (by omega), @emit_byte _ a (by omega)]
  | case4 a b c rest ih =>
    have ha := a.toNat_lt
    have hb := b.toNat_lt
    have hc := c.toNat_lt
    rw [base64Encode, go_first (by omega), go_second (by omega), go_third (by omega),
      go_fourth (by omega), ih]
    rw [@emit_byte _ c (by omega), @emit_byte _ b (by omega), @emit_byte _ a (by omega)]

theorem base64Decode_base64Encode (bs : List UInt8) : base64Decode (base64Encode bs) = .ok bs :=
  go_base64Encode bs 0

end DocStore.Text
