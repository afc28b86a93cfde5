import DocStore.Query.Equal
import DocStore.Proofs.Value.Stored

/-!
This module contains the laws of equality between values that can be identifiers.
-/

namespace DocStore

namespace Double

theorem order?_eq_comm (x y : Double) : x.order? y = some .eq ↔ y.order? x = some .eq := by
  cases x with
  | nan => cases y <;> simp [order?]
  | infinite a =>
    cases y with
    | nan => simp [order?]
    | infinite b => cases a <;> cases b <;> simp [order?]
    | finite b s => cases a <;> simp [order?]
  | finite a r =>
    cases y with
    | nan => simp [order?]
    | infinite b => cases b <;> simp [order?]
    | finite b s => cases a <;> cases b <;> simp [order?, @eq_comm _ s.val, and_comm]

end Double

namespace Value

theorem normalizeId_eq_null {v : Value} : v.normalizeId = .null ↔ v = .null := by
  cases v <;> simp [normalizeId, ofText]

theorem normalizeId_idem (v : Value) : v.normalizeId.normalizeId = v.normalizeId := by
  cases v <;> rfl

theorem isHashable_normalizeId (v : Value) : v.normalizeId.isHashable = v.isHashable := by
  cases v <;> rfl

theorem equals_comm {v w : Value} (hv : v.IsStored) (hw : w.IsStored) (hhash : w.isHashable = true)
    : v.equals w = w.equals v := by
  cases hw with
  | list => cases hhash
  | object => cases hhash
  | storedRegex => cases hhash
  | double y =>
    cases hv with
    | double x =>
      simp only [equals]
      exact decide_eq_decide.mpr (Double.order?_eq_comm x y)
    | _ => simp [equals, equalsInteger, integer?]
  | _ => cases hv <;> simp [equals, equalsInteger, integer?, Moment.sameAs, eq_comm]

theorem equals_unhashable {v w : Value} (hw : w.IsStored) (hv : v.isHashable = false)
    (hhash : w.isHashable = true) : v.equals w = false := by
  cases hw with
  | list => cases hhash
  | object => cases hhash
  | storedRegex => cases hhash
  | _ => cases v <;> simp [equals, isHashable] at hv ⊢

end Value

theorem valuesEqual_normalizeId (v w : Value) : valuesEqual v w.normalizeId = valuesEqual v w := by
  unfold valuesEqual
  rw [Value.normalizeId_idem]

theorem normalizeId_valuesEqual (v w : Value) : valuesEqual v.normalizeId w = valuesEqual v w := by
  unfold valuesEqual
  rw [Value.normalizeId_idem]

theorem valuesEqual_eq_false {v w : Value} (h : v.normalizeId.equals w.normalizeId = false)
    : valuesEqual v w = false := by
  unfold valuesEqual
  split
  next a b hv hw =>
    rw [hv, hw] at h
    cases a <;> cases b <;> simp [Value.equals, Value.equalsInteger, Value.integer?] at h ⊢
  . rfl
  . rfl
  . exact h

end DocStore
