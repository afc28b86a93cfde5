import DocStore.Proofs.Order.Compare

/-!
This module contains the values of the kinds that have an order, and the proof that they are
compared by it: by the group, by a number or by codes. Only two lists or objects are refused, if one
of them has no canonical text; wherever such a value is put among the others, no comparison that is
answered is at odds with it.
-/

namespace DocStore

open Work

structure Standing where
  place : Nat
  number : Int
  codes : List Nat

namespace Standing

def order : Standing → Standing → Ordering :=
  compareLex (compareOn place) (compareLex (compareOn number) (compareOn codes))

instance : Ord Standing := ⟨order⟩

instance : Std.TransOrd Standing :=
  inferInstanceAs
    (Std.TransCmp (compareLex (compareOn place) (compareLex (compareOn number) (compareOn codes))))

theorem order_of_place_ne {s t : Standing} (h : s.place ≠ t.place)
    : s.order t = compare s.place t.place := by
  unfold order compareLex compareOn
  cases hplace : compare s.place t.place with
  | eq => exact absurd (Nat.compare_eq_eq.mp hplace) h
  | _ => rfl

theorem order_of_number (p : Nat) (m n : Int) : order ⟨p, m, []⟩ ⟨p, n, []⟩ = compare m n := by
  have hrefl : compare p p = .eq ∧ compare ([] : List Nat) [] = .eq :=
    ⟨Std.ReflCmp.compare_self, Std.ReflCmp.compare_self⟩
  unfold order compareLex compareOn
  rw [hrefl.1, hrefl.2, Ordering.then_eq]
  rfl

theorem order_of_lt (p : Nat) {m n : Int} (s t : List Nat) (h : m < n)
    : order ⟨p, m, s⟩ ⟨p, n, t⟩ = .lt := by
  have hrefl : compare p p = .eq := Std.ReflCmp.compare_self
  unfold order compareLex compareOn
  rw [hrefl, compare_lt_iff_lt.mpr h]
  rfl

theorem order_of_gt (p : Nat) {m n : Int} (s t : List Nat) (h : n < m)
    : order ⟨p, m, s⟩ ⟨p, n, t⟩ = .gt := by
  have hrefl : compare p p = .eq := Std.ReflCmp.compare_self
  unfold order compareLex compareOn
  rw [hrefl, compare_gt_iff_gt.mpr h]
  rfl

theorem order_of_codes (p : Nat) (n : Int) (s t : List Nat)
    : order ⟨p, n, s⟩ ⟨p, n, t⟩ = Comparand.listOrder s t := by
  have hrefl : compare p p = .eq ∧ compare n n = .eq :=
    ⟨Std.ReflCmp.compare_self, Std.ReflCmp.compare_self⟩
  unfold order compareLex compareOn Comparand.listOrder
  rw [hrefl.1, hrefl.2, lexicographic_eq_compareLex]
  rfl

end Standing

namespace Comparand

inductive IsOrdered : Comparand → Prop where
  | null : IsOrdered .null
  | exact (n) : IsOrdered (.exact n)
  | text (codes) : IsOrdered (.text codes)
  | compound (v) : IsOrdered (.compound v)
  | boolean (b) : IsOrdered (.boolean b)

def standing (level : Int) : Comparand → Standing
  | .exact n => ⟨1, n, []⟩
  | .text codes => ⟨2, 0, codes⟩
  | .compound v =>
    match v.canonical with
    | .ok s => ⟨3, 0, s.map Char.toNat⟩
    | .error _ => ⟨3, level, []⟩
  | .boolean b => ⟨4, 0, [b]⟩
  | k => ⟨k.place, 0, []⟩

theorem standing_place (level : Int) (k : Comparand) : (k.standing level).place = k.place := by
  cases k with
  | compound v =>
    rw [standing]
    cases v.canonical <;> rfl
  | _ => rfl

theorem sign_ends {k l : Comparand} (hk : k.IsOrdered) (hl : l.IsOrdered) (m n : Int)
    : Ends (k.sign l) (fun r => r = signOf ((k.standing m).order (l.standing n))) fun _ =>
        ∃ v w, k = .compound v ∧ l = .compound w ∧
          ((∃ err, v.canonical = .error err) ∨ ∃ err, w.canonical = .error err)
    := by
  by_cases hplace : k.place = l.place
  -- within a group the number decides or the codes, of which the other is the same on both sides
  . cases areBeside_of_place hplace with
    | null => exact ends_ok rfl
    | exact i j => exact ends_ok (congrArg signOf (Standing.order_of_number 1 i j).symm)
    | text s t => exact ends_ok (congrArg signOf (Standing.order_of_codes 2 0 s t).symm)
    | compound v w =>
      rw [sign, standing, standing]
      cases hv : v.canonical with
      | error err => exact ⟨yields_error, blames_error ⟨v, w, rfl, rfl, .inl ⟨err, hv⟩⟩⟩
      | ok left =>
        cases hw : w.canonical with
        | error err => exact ⟨yields_error, blames_error ⟨v, w, rfl, rfl, .inr ⟨err, hw⟩⟩⟩
        | ok right =>
          refine ends_ok (congrArg signOf ?_)
          dsimp only
          rw [Standing.order_of_codes]
          exact lexicographic_map compare Char.toNat left right
    | boolean b c =>
      refine ends_ok (congrArg signOf ?_)
      rw [standing, standing, Standing.order_of_codes, listOrder, lexicographic, lexicographic,
        Ordering.then_eq]
    | exactReal => cases hl
    | realExact | real | other => cases hk
  . rw [sign_of_place_ne hplace, Standing.order_of_place_ne
      (by rwa [standing_place, standing_place]), standing_place, standing_place]
    exact ends_ok rfl

end Comparand

namespace Value

inductive IsListed : Value → Prop where
  | null : IsListed .null
  | bool (b) : IsListed (.bool b)
  | int (n) : IsListed (.int n)
  | long (n) : IsListed (.long n)
  | text (s) : IsListed (.text s)
  | id (i) : IsListed (.id i)
  | list (xs) : IsListed (.list xs)
  | object (fs) : IsListed (.object fs)

def IsCompound (v : Value) : Prop := (∃ xs, v = .list xs) ∨ ∃ fs, v = .object fs

structure AreRefused (v w : Value) : Prop where
  left : v.IsCompound
  right : w.IsCompound
  unwritable : (∃ err, v.canonical = .error err) ∨ ∃ err, w.canonical = .error err

theorem IsCompound.comparand {v : Value} (h : v.IsCompound) : v.comparand = .compound v := by
  rcases h with ⟨xs, rfl⟩ | ⟨fs, rfl⟩
  . rfl
  . rfl

theorem IsCompound.standing_zero {v : Value} (h : v.IsCompound)
    : ∃ codes, v.comparand.standing 0 = ⟨3, 0, codes⟩ := by
  rw [h.comparand, Comparand.standing]
  cases v.canonical with
  | ok s => exact ⟨_, rfl⟩
  | error err => exact ⟨_, rfl⟩

theorem IsCompound.standing_of_error {v : Value} (h : v.IsCompound)
    (herr : ∃ err, v.canonical = .error err)
    (level : Int) : v.comparand.standing level = ⟨3, level, []⟩ := by
  obtain ⟨err, herr⟩ := herr
  rw [h.comparand, Comparand.standing, herr]

theorem IsListed.comparable {v : Value} (h : v.IsListed) (hnull : v ≠ .null)
    : ∃ w, comparable v = .ok w ∧ w.IsMeasured ∧ w.comparand = v.comparand := by
  cases h with
  | null => exact absurd rfl hnull
  | id i =>
    refine ⟨.ofText i.hex, rfl, .text _, ?_⟩
    unfold ofText comparand
    dsimp only
    rw [String.toList_ofList]
  | _ => exact ⟨_, rfl, by constructor, rfl⟩

theorem IsListed.comparand {v : Value} (h : v.IsListed) : v.comparand.IsOrdered := by
  cases h <;> constructor

theorem IsListed.compound {v w : Value} (h : v.IsListed) (hw : v.comparand = .compound w)
    : v = w ∧ v.IsCompound := by
  cases h with
  | list xs => exact ⟨by injection hw, .inl ⟨xs, rfl⟩⟩
  | object fs => exact ⟨by injection hw, .inr ⟨fs, rfl⟩⟩
  | _ => cases hw

theorem compareValues_swap {v w : Value} (hv : v.IsListed) (hw : w.IsListed) {r : Int}
    (h : compareValues v w = .ok r) : compareValues w v = .ok (-r) := by
  rw [compareValues_of_measured hv.comparable hw.comparable] at h
  rw [compareValues_of_measured hw.comparable hv.comparable]
  exact (Comparand.sign_swap h).2

theorem AreRefused.swap {v w : Value} (h : AreRefused v w) : AreRefused w v :=
  ⟨h.right, h.left, h.unwritable.symm⟩

theorem AreRefused.levels {v w : Value} (h : AreRefused v w)
    : ∃ m n m' n', (v.comparand.standing m).order (w.comparand.standing n) = .lt
        ∧ (v.comparand.standing m').order (w.comparand.standing n') = .gt := by
  rcases h.unwritable with herr | herr
  . obtain ⟨codes, hcodes⟩ := h.right.standing_zero
    have hv := h.left.standing_of_error herr
    refine ⟨-1, 0, 1, 0, ?_, ?_⟩
    . rw [hv, hcodes]
      exact Standing.order_of_lt 3 _ _ (by decide)
    . rw [hv, hcodes]
      exact Standing.order_of_gt 3 _ _ (by decide)
  . obtain ⟨codes, hcodes⟩ := h.left.standing_zero
    have hw := h.right.standing_of_error herr
    refine ⟨0, 1, 0, -1, ?_, ?_⟩
    . rw [hw, hcodes]
      exact Standing.order_of_lt 3 _ _ (by decide)
    . rw [hw, hcodes]
      exact Standing.order_of_gt 3 _ _ (by decide)

theorem compareValues_ends {v w : Value} (hv : v.IsListed) (hw : w.IsListed) (m n : Int)
    : Ends (compareValues v w)
      (fun r => r = signOf ((v.comparand.standing m).order (w.comparand.standing n)))
        fun _ => AreRefused v w := by
  rw [compareValues_of_measured hv.comparable hw.comparable]
  have hends := Comparand.sign_ends hv.comparand hw.comparand m n
  refine ⟨hends.yields, fun err herr => ?_⟩
  obtain ⟨_, _, hv', hw', h⟩ := hends.blames err herr
  obtain ⟨rfl, hvc⟩ := hv.compound hv'
  obtain ⟨rfl, hwc⟩ := hw.compound hw'
  exact ⟨hvc, hwc, h⟩

end Value

end DocStore
