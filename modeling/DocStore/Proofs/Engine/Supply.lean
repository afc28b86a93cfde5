import Mathlib.Data.List.Nodup
import Mathlib.Data.List.Perm.Subperm
import Mathlib.Logic.Function.Iterate
import DocStore.Engine.Document
import DocStore.Proofs.Text.Hex
import DocStore.Proofs.Value.Equal

/-!
This module contains the proof that a new identifier is found: identifiers that are handed out one
after another differ, so that the search for one that is not taken ends wherever it begins, unless
all are taken.
-/

namespace DocStore

namespace ObjectId

theorem bits_next_iterate (i : ObjectId) (n : Nat)
    : ((next^[n] i).bits : Nat) = (i.bits + n) % 2 ^ 96 := by
  induction n with
  | zero => exact (Nat.mod_eq_of_lt i.bits.isLt).symm
  | succ n ih =>
    rw [Function.iterate_succ_apply']
    change ((next^[n] i).bits + 1 : Nat) % 2 ^ 96 = _
    rw [ih]
    omega

theorem next_iterate_injective {i : ObjectId} {m n : Nat} (hm : m < 2 ^ 96) (hn : n < 2 ^ 96)
    (h : next^[m] i = next^[n] i) : m = n := by
  have hbits := congrArg (fun j : ObjectId => (j.bits : Nat)) h
  simp only [bits_next_iterate] at hbits
  omega

def texts (i : ObjectId) (n : Nat) : List Value :=
  (List.range n).map fun k => Value.ofText (next^[k] i).hex

theorem texts_nodup (i : ObjectId) {n : Nat} (hn : n ≤ 2 ^ 96) : (i.texts n).Nodup := by
  refine List.Nodup.map_on ?_ List.nodup_range
  intro k hk m hm heq
  rw [List.mem_range] at hk hm
  have heq := String.ofList_injective (Value.text.inj heq)
  exact next_iterate_injective (by omega) (by omega) (hex_injective heq)

theorem exists_next_iterate (i j : ObjectId) : ∃ k < 2 ^ 96, next^[k] i = j := by
  have hi : (i.bits : Nat) < 2 ^ 96 := i.bits.isLt
  have hj : (j.bits : Nat) < 2 ^ 96 := j.bits.isLt
  obtain ⟨k, hk, hbits⟩ : ∃ k < 2 ^ 96, ((i.bits : Nat) + k) % 2 ^ 96 = j.bits :=
    ⟨((j.bits : Nat) + 2 ^ 96 - i.bits) % 2 ^ 96, by omega, by omega⟩
  rw [← bits_next_iterate] at hbits
  exact ⟨k, hk, congrArg mk (Fin.ext hbits)⟩

end ObjectId

namespace Value

theorem mem_of_any_equals {xs : List Value} {s : List Char}
    (h : xs.any (·.equals (ofText s)) = true)
    : ofText s ∈ xs := by
  obtain ⟨v, hv, heq⟩ := List.any_eq_true.mp h
  rwa [equals_text.mp heq] at hv

structure HoldsAmong (taken : Value) (members : List Value) : Prop where
  isContainer : ∃ n, taken.textCapacity = .ok n
  among : ∀ i : ObjectId, taken.holdsText i.hex = true → ofText i.hex ∈ members

theorem holdsAmong_set (frozen : Bool) (members : List Value)
    : (Value.set frozen members).HoldsAmong members :=
  ⟨⟨_, rfl⟩, fun _ => mem_of_any_equals⟩

theorem HoldsAmong.cons {taken members : List Value}
    (h : (Value.set false taken).HoldsAmong members) (v : Value)
    : (Value.set false (v :: taken)).HoldsAmong (v :: members) := by
  refine ⟨⟨_, rfl⟩, ?_⟩
  intro i hi
  cases List.mem_cons.mp (mem_of_any_equals hi) with
  | inl heq =>
    rw [heq]
    exact List.mem_cons_self ..
  | inr hmem =>
    refine List.mem_cons_of_mem _ (h.among i ?_)
    exact List.any_eq_true.mpr ⟨_, hmem, equals_text.mpr rfl⟩

theorem exists_of_occursIn {part s : List Char} (hpart : part ≠ []) (h : occursIn part s = true)
    : ∃ k < s.length, (s.drop k).take part.length = part := by
  induction s with
  | nil => exact absurd (List.isEmpty_iff.mp h) hpart
  | cons c s ih =>
    unfold occursIn at h
    rw [Bool.or_eq_true] at h
    cases h with
    | inl h =>
      refine ⟨0, Nat.zero_lt_succ _, ?_⟩
      exact (List.prefix_iff_eq_take.mp (List.isPrefixOf_iff_prefix.mp h)).symm
    | inr h =>
      obtain ⟨k, hk, heq⟩ := ih h
      exact ⟨k + 1, Nat.succ_lt_succ hk, heq⟩

theorem exists_holdsAmong {taken : Value} {n : Nat} (h : taken.textCapacity = .ok n)
    : ∃ members, members.length = n ∧ taken.HoldsAmong members := by
  cases taken with
  | list xs =>
    cases h
    exact ⟨xs, rfl, ⟨_, rfl⟩, fun _ => mem_of_any_equals⟩
  | tuple xs =>
    cases h
    exact ⟨xs, rfl, ⟨_, rfl⟩, fun _ => mem_of_any_equals⟩
  | set frozen xs =>
    cases h
    exact ⟨xs, rfl, holdsAmong_set frozen xs⟩
  | object fs =>
    cases h
    refine ⟨fs.map (·.1), List.length_map .., ⟨_, rfl⟩, ?_⟩
    intro i hi
    apply mem_of_any_equals
    rw [List.any_map]
    exact hi
  | text t =>
    cases h
    refine ⟨(List.range t.length).map fun k => ofText ((t.toList.drop k).take 24), by simp,
      ⟨_, rfl⟩, ?_⟩
    intro i hi
    have hne : i.hex ≠ [] := List.ne_nil_of_length_pos (by rw [i.length_hex]; decide)
    obtain ⟨k, hk, heq⟩ := exists_of_occursIn hne hi
    rw [i.length_hex] at heq
    refine List.mem_map.mpr ⟨k, ?_, congrArg ofText heq⟩
    rwa [List.mem_range, ← String.length_toList]
  | _ => cases h

theorem HoldsAmong.le_length {taken : Value} {members : List Value}
    (hmembers : taken.HoldsAmong members) {i : ObjectId} {n : Nat} (hn : n ≤ 2 ^ 96)
    (h : ∀ k < n, taken.holdsText (ObjectId.next^[k] i).hex = true)
    : n ≤ members.length := by
  -- the identifiers in the row are all different, and each is among the values
  have hnodup : (i.texts n).Nodup := i.texts_nodup hn
  have hsubset : i.texts n ⊆ members := by
    intro v hv
    obtain ⟨k, hk, rfl⟩ := List.mem_map.mp hv
    exact hmembers.among _ (h k (List.mem_range.mp hk))
  have hlength := (List.subperm_of_subset hnodup hsubset).length_le
  rwa [ObjectId.texts, List.length_map, List.length_range] at hlength

end Value

namespace IdSupply

/--
Identifiers are handed out until one is not taken: how many they are, the last of them, and the
supply that is left. Nothing bounds how many they are.
-/
inductive Finds (taken : Value) : IdSupply → Nat → ObjectId → IdSupply → Prop where
  | free {s} (free : taken.holdsText s.draw.1.hex = false) : Finds taken s 1 s.draw.1 s.draw.2
  | again {s n i s'} (held : taken.holdsText s.draw.1.hex = true)
      (rest : Finds taken s.draw.2 n i s') : Finds taken s (n + 1) i s'

variable {taken : Value} {members : List Value} {s s' : IdSupply} {n : Nat} {i : ObjectId}

theorem Finds.pos (h : Finds taken s n i s') : 0 < n := by
  cases h <;> exact Nat.zero_lt_succ _

theorem Finds.isFree (h : Finds taken s n i s') : taken.holdsText i.hex = false := by
  induction h with
  | free hfree => exact hfree
  | again _ _ ih => exact ih

theorem Finds.held (h : Finds taken s n i s') {k : Nat} (hk : k + 1 < n)
    : taken.holdsText (ObjectId.next^[k] s.upcoming).hex = true := by
  induction h generalizing k with
  | free => omega
  | again held _ ih =>
    cases k with
    | zero => exact held
    | succ k =>
      rw [Function.iterate_succ_apply]
      exact ih (Nat.lt_of_succ_lt_succ hk)

theorem Finds.le_size (h : Finds taken s n i s') : n ≤ 2 ^ 96 := by
  refine Nat.le_of_not_lt fun hlt => ?_
  obtain ⟨k, hk, heq⟩ := s.upcoming.exists_next_iterate i
  have hheld := h.held (Nat.lt_of_le_of_lt hk hlt)
  rw [heq, h.isFree] at hheld
  cases hheld

theorem Finds.le_length (hmembers : taken.HoldsAmong members) (h : Finds taken s n i s')
    : n ≤ members.length + 1 := by
  have hsize := h.le_size
  have hle : n - 1 ≤ members.length := hmembers.le_length (by omega) fun k hk => h.held (by omega)
  omega

theorem exists_finds {k : Nat} (h : taken.holdsText (ObjectId.next^[k] s.upcoming).hex = false)
    : ∃ n i s', Finds taken s n i s' := by
  induction k generalizing s with
  | zero => exact ⟨_, _, _, .free h⟩
  | succ k ih =>
    cases hfirst : taken.holdsText s.draw.1.hex with
    | false => exact ⟨_, _, _, .free hfirst⟩
    | true =>
      rw [Function.iterate_succ_apply] at h
      obtain ⟨n, i, s', hrest⟩ := ih (s := s.draw.2) h
      exact ⟨_, _, _, .again hfirst hrest⟩

theorem finds_iff
    : (∃ n i s', Finds taken s n i s') ↔ ∃ i : ObjectId, taken.holdsText i.hex = false := by
  constructor
  . rintro ⟨n, i, s', h⟩
    exact ⟨i, h.isFree⟩
  . rintro ⟨i, hi⟩
    obtain ⟨k, _, rfl⟩ := s.upcoming.exists_next_iterate i
    exact exists_finds hi

theorem exists_free (hmembers : taken.HoldsAmong members) (hfew : members.length < 2 ^ 96)
    : ∃ i : ObjectId, taken.holdsText i.hex = false := by
  by_contra hall
  have hheld : ∀ i : ObjectId, taken.holdsText i.hex = true := by
    intro i
    rw [← Bool.not_eq_false]
    exact fun hi => hall ⟨i, hi⟩
  have hle := hmembers.le_length (i := default) hfew fun k _ => hheld _
  omega

theorem Finds.drawFree (h : Finds taken s n i s') {bound : Nat} (hbound : n ≤ bound + 1)
    : s.drawFree (fun t => taken.holdsText t) bound = (some i, s') := by
  induction h generalizing bound with
  | free hfree => cases bound <;> simp [IdSupply.drawFree, hfree]
  | @again s n i s' held rest ih =>
    have hpos := rest.pos
    obtain ⟨bound, rfl⟩ :=
      Nat.exists_eq_add_one.mpr (Nat.lt_of_lt_of_le hpos (Nat.le_of_succ_le_succ hbound))
    unfold IdSupply.drawFree
    dsimp only
    rw [if_pos held]
    exact ih (Nat.le_of_succ_le_succ hbound)

end IdSupply

namespace Collection

theorem generateId_finds {taken : Value} {members : List Value}
    (hmembers : taken.HoldsAmong members) (hfew : members.length < 2 ^ 96) (ids : IdSupply)
    : ∃ n i ids', n ≤ members.length + 1 ∧ ids.Finds taken n i ids'
      ∧ generateId taken ids = (.ok (.ofText i.hex), ids') := by
  obtain ⟨n, i, ids', hfinds⟩ := IdSupply.finds_iff.mpr (IdSupply.exists_free hmembers hfew)
  refine ⟨n, i, ids', hfinds.le_length hmembers, hfinds, ?_⟩
  -- the walk is given up after one identifier more than the container has room for
  obtain ⟨bound, hcapacity⟩ := hmembers.isContainer
  obtain ⟨held, rfl, hheld⟩ := Value.exists_holdsAmong hcapacity
  unfold generateId
  rw [hcapacity]
  dsimp only
  rw [hfinds.drawFree (hfinds.le_length hheld)]

theorem generateId_error {taken : List Value} {err : Error} {ids ids' : IdSupply}
    (h : generateId (.set false taken) ids = (.error err, ids')) : 2 ^ 96 ≤ taken.length := by
  refine Nat.le_of_not_lt fun hlt => ?_
  obtain ⟨_, _, _, _, _, hok⟩ := generateId_finds (Value.holdsAmong_set false taken) hlt ids
  rw [h] at hok
  cases hok

end Collection

end DocStore
