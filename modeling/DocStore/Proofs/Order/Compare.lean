import DocStore.Proofs.Order.Comparand

/-!
This module contains the proof of how far the comparison of values is an order on the values that
documents can hold.
-/

namespace DocStore

open Work

namespace Value

def comparand : Value → Comparand
  | .null => .null
  | .bool b => .boolean b.toNat
  | .int n => .exact n
  | .long n => .exact n
  | .double x => .real x
  | .text s => .text (s.toList.map Char.toNat)
  | .date m => .real ((Double.ofRational m.instant 1000000).scale 1000)
  | .id i => .text (i.hex.map Char.toNat)
  | .list xs => .compound (.list xs)
  | .object fs => .compound (.object fs)
  | .bytes bs => .other "bytes" (bs.map UInt8.toNat)
  | .binary _ bs => .other "Binary" (bs.map UInt8.toNat)
  | .timestamp t i => .other "Timestamp" [t, i]
  | v => .other v.kindName []

inductive IsMeasured : Value → Prop where
  | bool (b) : IsMeasured (.bool b)
  | int (n) : IsMeasured (.int n)
  | long (n) : IsMeasured (.long n)
  | double (x) : IsMeasured (.double x)
  | text (s) : IsMeasured (.text s)
  | list (xs) : IsMeasured (.list xs)
  | object (fs) : IsMeasured (.object fs)
  | bytes (bs) : IsMeasured (.bytes bs)
  | binary (t bs) : IsMeasured (.binary t bs)
  | storedRegex (s bits) : IsMeasured (.storedRegex s bits true)
  | minKey : IsMeasured .minKey
  | maxKey : IsMeasured .maxKey
  | timestamp (t i) : IsMeasured (.timestamp t i)

theorem IsSortable.comparable {v : Value} (h : v.IsSortable) (hnull : v ≠ .null)
    : ∃ w, comparable v = .ok w ∧ w.IsMeasured ∧ w.comparand = v.comparand := by
  cases h with
  | null => exact absurd rfl hnull
  | date h => exact ⟨_, rfl, .double _, rfl⟩
  | id i =>
    refine ⟨.ofText i.hex, rfl, .text _, ?_⟩
    unfold ofText comparand
    dsimp only
    rw [String.toList_ofList]
  | _ => exact ⟨_, rfl, by constructor, rfl⟩

end Value

theorem compareNatively_eq {a b : Value} {o : Ordering}
    (h : ∀ r : Relation, Value.relate r a b = some (r.holds o))
    : compareNatively a b = signOf o := by
  unfold compareNatively
  rw [h, h]
  cases o <;> rfl

theorem textOrder_eq (s t : String)
    : textOrder s t = Comparand.listOrder (s.toList.map Char.toNat) (t.toList.map Char.toNat) :=
  lexicographic_map compare Char.toNat _ _

theorem byteOrder_eq (s t : List UInt8)
    : byteOrder s t = Comparand.listOrder (s.map UInt8.toNat) (t.map UInt8.toNat) :=
  lexicographic_map compare UInt8.toNat _ _

theorem compareKinds_of_other {a b : Value} {kind : String} (ha : Rank.ofValue a = .other kind)
    (hb : Rank.ofValue b = .other kind) : compareKinds a b = .ok (compareNatively a b) := by
  unfold compareKinds
  rw [ha, hb]
  exact if_pos rfl

theorem compareKinds_eq {a b : Value} (ha : a.IsMeasured) (hb : b.IsMeasured)
    : compareKinds a b = a.comparand.sign b.comparand := by
  cases ha with
  | text s =>
    cases hb with
    | text t =>
      refine congrArg Except.ok (compareNatively_eq fun r => ?_)
      rw [← textOrder_eq]
      rfl
    | _ => rfl
  | bool b =>
    cases hb with
    | bool c =>
      refine congrArg Except.ok (compareNatively_eq (o := compare b.toNat c.toNat) fun r => ?_)
      cases b <;> cases c <;> rfl
    | _ => rfl
  | bytes s =>
    cases hb with
    | bytes t =>
      rw [compareKinds_of_other rfl rfl, compareNatively_eq (o := byteOrder s t) fun _ => rfl,
        byteOrder_eq]
      rfl
    | _ => rfl
  | binary k s =>
    cases hb with
    | binary l t =>
      rw [compareKinds_of_other rfl rfl, compareNatively_eq (o := byteOrder s t) fun _ => rfl,
        byteOrder_eq]
      rfl
    | _ => rfl
  | timestamp t i =>
    cases hb with
    | timestamp u j =>
      have horder : (compare t u).then (compare i j) = Comparand.listOrder [t, i] [u, j] := by
        unfold Comparand.listOrder
        rw [lexicographic, lexicographic, lexicographic, Ordering.then_eq]
      rw [compareKinds_of_other rfl rfl, compareNatively_eq fun _ => rfl, horder]
      rfl
    | _ => rfl
  | _ => cases hb <;> rfl

theorem compareValues_of_measured {a b : Value}
    (ha : a ≠ .null → ∃ v, comparable a = .ok v ∧ v.IsMeasured ∧ v.comparand = a.comparand)
    (hb : b ≠ .null → ∃ w, comparable b = .ok w ∧ w.IsMeasured ∧ w.comparand = b.comparand)
    : compareValues a b = a.comparand.sign b.comparand := by
  by_cases hanull : a = .null
  . rw [hanull]
    cases b <;> rfl
  . by_cases hbnull : b = .null
    . rw [hbnull]
      cases a <;> rfl
    . obtain ⟨v, hv, hvm, hvc⟩ := ha hanull
      obtain ⟨w, hw, hwm, hwc⟩ := hb hbnull
      have hkinds : compareValues a b = (do compareKinds (← comparable a) (← comparable b)) := by
        unfold compareValues
        split
        . exact absurd rfl hanull
        . exact absurd rfl hanull
        . exact absurd rfl hbnull
        . rfl
      rw [hkinds, hv, hw, ← hvc, ← hwc]
      exact compareKinds_eq hvm hwm

theorem compareValues_eq {a b : Value} (ha : a.IsSortable) (hb : b.IsSortable)
    : compareValues a b = a.comparand.sign b.comparand :=
  compareValues_of_measured ha.comparable hb.comparable

theorem comparand_compound {v w : Value} (hv : v.IsSortable) (h : v.comparand = .compound w)
    : w.IsSortable := by
  cases hv with
  | list hall =>
    cases h
    exact .list hall
  | object keyed hall =>
    cases h
    exact .object keyed hall
  | _ => cases h

/--
How far the comparison of values that documents can hold is an order. The groups of values follow
one another. Some pairs of numbers, of lists and of objects are refused; otherwise the answer is a
sign, and the opposite one for the values the other way round. It is transitive, but for values that
are both equal to a third one that muddles them.
-/
theorem compareValues_nearly_ordered {a b c : Value} (ha : a.IsSortable) (hb : b.IsSortable)
    (hc : c.IsSortable)
    : (a.comparand.place < b.comparand.place → compareValues a b = .ok (-1))
      ∧ ((∃ err, compareValues a b = .error err) ↔ Comparand.IsRefused a.comparand b.comparand)
      ∧ (∀ x, compareValues a b = .ok x → IsSign x ∧ compareValues b a = .ok (-x))
      ∧ ∀ x y z, compareValues a b = .ok x → compareValues b c = .ok y →
        compareValues a c = .ok z → 0 < z →
        (x ≤ 0 ∧ y ≤ 0 ↔ Comparand.IsMuddled a.comparand b.comparand c.comparand) := by
  rw [compareValues_eq ha hb, compareValues_eq hb ha, compareValues_eq hb hc,
    compareValues_eq ha hc]
  refine ⟨?_, ?_, fun x hx => Comparand.sign_swap hx, ?_⟩
  . intro hplace
    rw [Comparand.sign_of_place_ne (by omega), Nat.compare_eq_lt.mpr hplace]
    rfl
  . exact Comparand.sign_error (fun _ => comparand_compound ha) fun _ => comparand_compound hb
  . intro x y z hx hy hz hpos
    constructor
    . rintro ⟨hle, hle'⟩
      exact (Comparand.sign_trans hx hy hz hle hle').resolve_left (by omega)
    . intro hmuddled
      obtain ⟨rfl, rfl⟩ := hmuddled.signs hx hy
      exact ⟨Int.le_refl 0, Int.le_refl 0⟩

theorem compareValues_nearly_ordered_rounded
    : compareValues (.int (2 ^ 53 + 1)) (.int (2 ^ 53)) = .ok 1
      ∧ Comparand.IsMuddled (.exact (2 ^ 53 + 1)) (.real (.ofRational (2 ^ 53) 1))
        (.exact (2 ^ 53)) :=
  ⟨rfl,
    ((compareValues_nearly_ordered (.int _) (.double _) (.int _)).2.2.2 0 0 1 (by decide +kernel)
    (by decide +kernel) rfl (by decide)).mp (by decide)⟩

/--
The comparison is not an order of all values that documents can hold: an integer beyond all numbers
is refused beside a number, and an integer that is greater than another is equal to the number that
both are rounded to.
-/
theorem compareValues_not_ordered
    : compareValues (.int (10 ^ 400)) (.double (.ofRational 1 1)) = .error .outOfRange
      ∧ compareValues (.int (2 ^ 53 + 1)) (.double (.ofRational (2 ^ 53) 1)) = .ok 0
      ∧ compareValues (.double (.ofRational (2 ^ 53) 1)) (.int (2 ^ 53)) = .ok 0
      ∧ compareValues (.int (2 ^ 53 + 1)) (.int (2 ^ 53)) = .ok 1 := by
  decide +kernel

end DocStore
