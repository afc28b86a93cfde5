import Mathlib.Data.Ordering.Lemmas
import Mathlib.Order.Compare
import DocStore.Order.Compare

/-!
This module contains the laws of signs that come from an order, and that lexicographic orders are
orders.
-/

namespace DocStore

section

variable {α β : Type}

theorem lexicographic_eq_compareLex (order : α → α → Ordering)
    : lexicographic order = List.compareLex order := by
  funext as bs
  induction as generalizing bs with
  | nil => cases bs <;> rfl
  | cons a as ih =>
    cases bs with
    | nil => rfl
    | cons b bs => rw [lexicographic, ih, List.compareLex_cons_cons]

theorem lexicographic_map (order : β → β → Ordering) (f : α → β) (as bs : List α)
    : lexicographic (fun a b => order (f a) (f b)) as bs =
      lexicographic order (as.map f) (bs.map f) := by
  induction as generalizing bs with
  | nil => cases bs <;> rfl
  | cons a as ih =>
    cases bs with
    | nil => rfl
    | cons b bs => rw [lexicographic, ih, List.map_cons, List.map_cons, lexicographic]

instance (order : α → α → Ordering) [Std.TransCmp order] : Std.TransCmp (lexicographic order) := by
  rw [lexicographic_eq_compareLex]
  infer_instance

end

def IsSign (x : Int) : Prop := x = -1 ∨ x = 0 ∨ x = 1

theorem signOf_isSign (o : Ordering) : IsSign (signOf o) := by
  cases o with
  | lt => exact .inl rfl
  | eq => exact .inr (.inl rfl)
  | gt => exact .inr (.inr rfl)

theorem signOf_swap (o : Ordering) : signOf o.swap = -signOf o := by
  cases o <;> rfl

theorem signOf_nonpos {o : Ordering} : signOf o ≤ 0 ↔ o.isLE = true := by
  cases o <;> decide

section

variable {α : Type} (order : α → α → Ordering) [Std.TransCmp order]

theorem signOf_order_swap (a b : α) : signOf (order b a) = -signOf (order a b) := by
  have hswap : order b a = (order a b).swap := Std.OrientedCmp.eq_swap
  rw [hswap, signOf_swap]

theorem signOf_order_trans {a b c : α} (hab : signOf (order a b) ≤ 0) (hbc : signOf (order b c) ≤ 0)
    : signOf (order a c) ≤ 0 := by
  rw [signOf_nonpos] at hab hbc ⊢
  exact Std.TransCmp.isLE_trans hab hbc

end

end DocStore
