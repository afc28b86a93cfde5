import DocStore.Json.Reader
import DocStore.Proofs.Number.Bound
import DocStore.Proofs.Work

/-!
This module contains the bound of the integers of JSON texts: a reader answers no integer that has
more digits than are converted to text.
-/

namespace DocStore

namespace Json

open Work

inductive IsShort : Json → Prop where
  | null : IsShort .null
  | bool (b) : IsShort (.bool b)
  | int {n} (h : Numeral.isLong n = false) : IsShort (.int n)
  | number (x) : IsShort (.number x)
  | text (s) : IsShort (.text s)
  | array {xs} (h : ∀ x ∈ xs, IsShort x) : IsShort (.array xs)
  | object {ms} (h : ∀ m ∈ ms, IsShort m.2) : IsShort (.object ms)

theorem digitsValue_lt {s : List Char} (h : ∀ c ∈ s, c.isDigit = true)
    : digitsValue s < 10 ^ s.length := by
  suffices ∀ acc k, acc < 10 ^ k →
      s.foldl (fun acc c => 10 * acc + (c.toNat - '0'.toNat)) acc < 10 ^ (k + s.length) by
    simpa [digitsValue] using this 0 0 (by simp)
  induction s with
  | nil =>
    intro acc k hacc
    exact hacc
  | cons c s ih =>
    intro acc k hacc
    have hc : c.toNat - '0'.toNat < 10 := by
      have := h c (List.mem_cons_self ..)
      simp only [Char.isDigit, Bool.and_eq_true, decide_eq_true_eq, ge_iff_le,
        UInt32.le_iff_toNat_le] at this
      have h9 : ('9'.val.toNat) = 57 := rfl
      have h0 : '0'.toNat = 48 := rfl
      have hcn : c.toNat = c.val.toNat := rfl
      omega
    rw [List.foldl_cons, List.length_cons, Nat.add_comm s.length 1, ← Nat.add_assoc]
    apply ih
    . intro d hd
      exact h d (List.mem_cons_of_mem _ hd)
    . exact Numeral.push_lt_pow hacc hc

theorem isDigit_of_mem_takeWhile {s : List Char} {c : Char} (h : c ∈ s.takeWhile Char.isDigit)
    : c.isDigit = true := by
  have := List.all_takeWhile (p := Char.isDigit) (l := s)
  rw [List.all_eq_true] at this
  exact this c h

theorem readNumber_isShort {negative : Bool} {place s rest : List Char} {j : Json}
    (h : readNumber negative place s = .ok (j, rest)) : j.IsShort := by
  unfold readNumber at h
  dsimp only at h
  split at h
  . cases h
  next ds r hw =>
    have hds : ∀ c ∈ ds, c.isDigit = true := by
      split at hw
      . cases hw
        simp
      . split at hw
        . cases hw
        . cases hw
          intro c hc
          exact isDigit_of_mem_takeWhile hc
    split at h
    . split at h
      . cases h
      next hlen =>
        cases h
        apply IsShort.int
        have := digitsValue_lt hds
        refine Numeral.isLong_eq_false ds.length ?_ (by omega)
        split
        . simpa using this
        . simpa using this
    . cases h
      exact .number _

theorem completing_ok {α : Type} {trees : List Json} {r : Reading α} {p : α × List Char}
    (h : completing trees r = .ok p) : r = .ok p := by
  cases r with
  | ok q => exact h
  | error e => cases h

structure ReadsShort (fuel : Nat) : Prop where
  value : ∀ s j rest, readValue fuel s = .ok (j, rest) → j.IsShort
  items : ∀ s js rest, readItems fuel s = .ok (js, rest) → ∀ j ∈ js, j.IsShort
  members : ∀ s ms rest, readMembers fuel s = .ok (ms, rest) → ∀ m ∈ ms, m.2.IsShort

section

variable {fuel : Nat} {s rest : List Char}

theorem readValue_isShort (ih : ReadsShort fuel) {j : Json}
    (h : readValue (fuel + 1) s = .ok (j, rest))
    : j.IsShort := by
  rw [readValue.eq_def] at h
  dsimp only at h
  split at h
  . obtain ⟨q, _, hq⟩ := map_ok h
    cases hq
    exact .text _
  . split at h
    . cases h
      exact .object (by simp)
    . obtain ⟨q, hq, he⟩ := map_ok h
      cases he
      exact .object (ih.members _ _ _ hq)
  . split at h
    . cases h
      exact .array (by simp)
    . obtain ⟨q, hq, he⟩ := map_ok h
      cases he
      exact .array (ih.items _ _ _ hq)
  . cases h
    exact .null
  . cases h
    exact .bool _
  . cases h
    exact .bool _
  . cases h
    exact .number _
  . cases h
    exact .number _
  . cases h
    exact .number _
  . exact readNumber_isShort h
  . exact readNumber_isShort h

theorem readItems_isShort (ih : ReadsShort fuel) {js : List Json}
    (h : readItems (fuel + 1) s = .ok (js, rest))
    : ∀ j ∈ js, j.IsShort := by
  rw [readItems] at h
  split at h
  . cases h
  next x r hx =>
    have hshort := ih.value _ _ _ hx
    split at h
    . cases h
      simpa using hshort
    . obtain ⟨q, hq, he⟩ := map_ok (completing_ok h)
      cases he
      exact List.forall_mem_cons.mpr ⟨hshort, ih.items _ _ _ hq⟩
    . cases completing_ok h

theorem readMembers_isShort (ih : ReadsShort fuel) {ms : List (List Char × Json)}
    (h : readMembers (fuel + 1) s = .ok (ms, rest)) : ∀ m ∈ ms, m.2.IsShort := by
  rw [readMembers.eq_def] at h
  dsimp only at h
  split at h
  . split at h
    . cases h
    . split at h
      . split at h
        . cases h
        next v r hv =>
          have hshort := ih.value _ _ _ hv
          split at h
          . cases h
            simpa using hshort
          . obtain ⟨q, hq, he⟩ := map_ok (completing_ok h)
            cases he
            exact List.forall_mem_cons.mpr ⟨hshort, ih.members _ _ _ hq⟩
          . cases completing_ok h
      . cases h
  . cases h

end

theorem readsShort (fuel : Nat) : ReadsShort fuel := by
  induction fuel with
  | zero =>
    constructor
    . intro s j rest h
      rw [readValue] at h
      cases h
    . intro s js rest h
      rw [readItems] at h
      cases h
    . intro s ms rest h
      rw [readMembers] at h
      cases h
  | succ fuel ih =>
    exact ⟨fun _ _ _ => readValue_isShort ih, fun _ _ _ => readItems_isShort ih, fun _ _ _ =>
      readMembers_isShort ih⟩

theorem read_isShort {s : List Char} {j : Json} (h : read s = .ok j) : j.IsShort := by
  unfold read at h
  split at h
  . cases h
  . split at h
    . cases h
    next hv =>
      split at h
      . cases h
        exact (readsShort _).value _ _ _ hv
      . cases h

end Json

end DocStore
