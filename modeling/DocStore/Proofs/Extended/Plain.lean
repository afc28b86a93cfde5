import DocStore.Proofs.Extended.Reread

/-!
This module contains plain values, which are read from their typed form as they were: those that
have no marks of types among their names, and whose moments are in whole milliseconds.
-/

namespace DocStore

inductive Value.IsPlain : Value → Prop where
  | null : IsPlain .null
  | bool (b) : IsPlain (.bool b)
  | int {n} (h : Numeral.isLong n = false) : IsPlain (.int n)
  | double (x) : IsPlain (.double x)
  | text (s) : IsPlain (.text s)
  | date {wall} (h : Extended.IsWhole wall) : IsPlain (.date (.utc wall))
  | id (i) : IsPlain (.id i)
  | bytes (bs) : IsPlain (.bytes bs)
  | list {xs} (h : ∀ x ∈ xs, IsPlain x) : IsPlain (.list xs)
  | object {fs} (keyed : Fields.IsKeyed fs)
      (unmarked : ∀ f ∈ fs, ∀ s, f.1 = .text s → Extended.Mark.ofName? s = none)
      (h : ∀ f ∈ fs, IsPlain f.2) : IsPlain (.object fs)

theorem Value.IsPlain.isRead {v : Value} (h : v.IsPlain) : v.IsRead := by
  induction h with
  | null => exact .null
  | bool b => exact .bool b
  | int h => exact .int h
  | double x => exact .double x
  | text s => exact .text s
  | date h => exact .date h.inRange
  | id i => exact .id i
  | bytes bs => exact .bytes bs
  | list _ ih => exact .list ih
  | object keyed unmarked _ ih =>
    exact .object keyed (.inl (Extended.isOwn_of_unmarked (Extended.firstMark?_eq_none unmarked)))
      ih

theorem Value.IsPlain.isStored {v : Value} (h : v.IsPlain) : v.IsStored := h.isRead.isStored

theorem Value.IsPlain.reread_eq {v : Value} (h : v.IsPlain) : v.reread = v := by
  induction h with
  | @date wall h =>
    have hwall : wall / 1000 * 1000 = wall := Int.ediv_mul_cancel_of_emod_eq_zero h.millis
    exact congrArg (fun micros => Value.date (.utc micros)) hwall
  | list _ ih => rw [reread_list, List.map_congr_left ih, List.map_id']
  | @object fs _ _ _ ih =>
    have hfields : fs.map (fun f => (f.1, f.2.reread)) = fs := by
      rw [List.map_congr_left fun f hf => by rw [ih f hf], List.map_id']
    rw [reread_object, Fields.reread, hfields]
  | _ => rfl

end DocStore
