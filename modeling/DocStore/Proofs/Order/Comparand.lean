import DocStore.Proofs.Number.Place
import DocStore.Proofs.Order.Canonical
import DocStore.Proofs.Order.Sign

/-!
This module contains what is compared of a value, and the laws of the comparison: how far it is an
order.
-/

namespace DocStore

open Work

theorem signOf_compare_nonpos {m n : Int} : signOf (compare m n) ≤ 0 ↔ m ≤ n := by
  rcases lt_trichotomy m n with h | h | h
  . rw [compare_lt_iff_lt.mpr h]
    exact iff_of_true (by decide) (by omega)
  . rw [compare_eq_iff_eq.mpr h]
    exact iff_of_true (by decide) (by omega)
  . rw [compare_gt_iff_gt.mpr h]
    exact iff_of_false (by decide) (by omega)

inductive Comparand where
  | null
  | exact (n : Int)
  | real (x : Double)
  | text (codes : List Nat)
  | compound (v : Value)
  | boolean (b : Nat)
  | other (kind : String) (parts : List Nat)

namespace Comparand

def place : Comparand → Nat
  | .null => 0
  | .exact _ => 1
  | .real _ => 1
  | .text _ => 2
  | .compound _ => 3
  | .boolean _ => 4
  | .other .. => 99

def listOrder (s t : List Nat) : Ordering := lexicographic compare s t

instance : Std.TransCmp listOrder := inferInstanceAs (Std.TransCmp (lexicographic compare))

def canonicalOrder (s t : List Char) : Ordering :=
  lexicographic (fun c d => compare c.toNat d.toNat) s t

instance : Std.TransCmp canonicalOrder :=
  inferInstanceAs (Std.TransCmp (lexicographic (compareOn Char.toNat)))

/--
The comparison of two comparands. Those of different groups are told apart by the places of the
groups.
-/
def sign : Comparand → Comparand → Except Fault Int
  | .exact m, .exact n => .ok (signOf (compare m n))
  | .exact n, .real x => differenceSign n x
  | .real x, .exact n => do return -(← differenceSign n x)
  | .real x, .real y => .ok (signOf ((x.order? y).getD .eq))
  | .text s, .text t => .ok (signOf (listOrder s t))
  | .compound v, .compound w => do
    let left ← v.canonical
    let right ← w.canonical
    return signOf (canonicalOrder left right)
  | .boolean b, .boolean c => .ok (signOf (compare b c))
  | .other k s, .other l t => .ok (if k = l then signOf (listOrder s t) else 0)
  | k, l => .ok (signOf (compare k.place l.place))

inductive AreBeside : Comparand → Comparand → Prop where
  | null : AreBeside .null .null
  | exact (m n) : AreBeside (.exact m) (.exact n)
  | exactReal (n x) : AreBeside (.exact n) (.real x)
  | realExact (x n) : AreBeside (.real x) (.exact n)
  | real (x y) : AreBeside (.real x) (.real y)
  | text (s t) : AreBeside (.text s) (.text t)
  | compound (v w) : AreBeside (.compound v) (.compound w)
  | boolean (b c) : AreBeside (.boolean b) (.boolean c)
  | other (kind kind' s t) : AreBeside (.other kind s) (.other kind' t)

theorem areBeside_of_place {k l : Comparand} (h : k.place = l.place) : AreBeside k l := by
  cases k <;> cases l <;> first | constructor | cases h

theorem sign_of_place_ne {k l : Comparand} (h : k.place ≠ l.place)
    : k.sign l = .ok (signOf (compare k.place l.place)) := by
  cases k <;> cases l <;> first | rfl | exact absurd rfl h

def numberPlace : Comparand → Int
  | .exact n => Double.roundedPlace n
  | .real x => x.place
  | _ => 0

def AreExact (k l : Comparand) : Prop := ∃ m n, k = .exact m ∧ l = .exact n

theorem differenceSign_ok {n : Int} {x : Double} {d : Int} (h : differenceSign n x = .ok d)
    : ∃ y, Double.ofInt? n = some y ∧ d = signOf ((y.order? x).getD .eq) := by
  unfold differenceSign at h
  split at h
  . cases h
  next y hy =>
    cases h
    exact ⟨y, hy, rfl⟩

theorem sign_real_exact {x : Double} {n d : Int} (h : (real x).sign (.exact n) = .ok d)
    : differenceSign n x = .ok (-d) := by
  obtain ⟨e, he, h⟩ := then_ok h
  cases h
  rw [he, Int.neg_neg]

theorem sign_nan {k : Comparand} (hk : k.place = 1) {d : Int}
    : (k.sign (.real .nan) = .ok d → d = 0) ∧ ((real .nan).sign k = .ok d → d = 0) := by
  have hdifference : ∀ {n e : Int}, differenceSign n .nan = .ok e → e = 0 := by
    intro n e h
    obtain ⟨y, _, rfl⟩ := differenceSign_ok h
    rw [Double.order?_nan_right]
    rfl
  cases k with
  | exact n =>
    refine ⟨hdifference, fun h => ?_⟩
    have := hdifference (sign_real_exact h)
    omega
  | real x =>
    constructor
    . intro h
      cases h
      rw [Double.order?_nan_right]
      rfl
    . intro h
      cases h
      rfl
  | _ => cases hk

theorem sign_of_numbers {k l : Comparand} (hk : k.place = 1) (hl : l.place = 1)
    (hkn : k ≠ .real .nan) (hln : l ≠ .real .nan) (hreal : ¬ AreExact k l) {d : Int}
    (h : k.sign l = .ok d)
    : d = signOf (compare k.numberPlace l.numberPlace) := by
  have hdifference : ∀ {n e : Int} {x : Double}, x ≠ .nan → differenceSign n x = .ok e →
      e = signOf (compare (Double.roundedPlace n) x.place) := by
    intro n e x hx he
    obtain ⟨y, hy, rfl⟩ := differenceSign_ok he
    obtain ⟨hnan, hplace⟩ := Double.ofInt?_eq_some hy
    rw [Double.order?_eq hnan hx, hplace]
    rfl
  cases k with
  | exact m =>
    cases l with
    | exact n => exact absurd ⟨m, n, rfl, rfl⟩ hreal
    | real y => exact hdifference (fun hy => hln (hy ▸ rfl)) h
    | _ => cases hl
  | real x =>
    have hx : x ≠ .nan := fun hx => hkn (hx ▸ rfl)
    cases l with
    | exact n =>
      have hd := hdifference hx (sign_real_exact h)
      rw [signOf_order_swap compare] at hd
      exact Int.neg_inj.mp hd
    | real y =>
      cases h
      rw [Double.order?_eq hx fun hy => hln (hy ▸ rfl)]
      rfl
    | _ => cases hl
  | _ => cases hk

theorem numberPlace_le {k l : Comparand} (hk : k.place = 1) (hl : l.place = 1)
    (hkn : k ≠ .real .nan)
    (hln : l ≠ .real .nan) {d : Int} (h : k.sign l = .ok d) (hd : d ≤ 0)
    : k.numberPlace ≤ l.numberPlace := by
  by_cases hexact : AreExact k l
  . obtain ⟨m, n, rfl, rfl⟩ := hexact
    cases h
    exact Double.roundedPlace_mono (signOf_compare_nonpos.mp hd)
  . rw [sign_of_numbers hk hl hkn hln hexact h] at hd
    exact signOf_compare_nonpos.mp hd

/--
What keeps the comparison from being an order: the one in the middle is equal to both others, which
are apart.
-/
inductive IsMuddled : Comparand → Comparand → Comparand → Prop where
  | nan {k m} (hk : k.place = 1) (hm : m.place = 1) : IsMuddled k (.real .nan) m
  | rounded {i j x} (hi : Double.ofInt? i = some x) (hj : Double.ofInt? j = some x) :
      IsMuddled (.exact i) (.real x) (.exact j)
  | kinds {kind kind' r s t} (h : kind ≠ kind') : IsMuddled (.other kind r) (.other kind' s)
      (.other kind t)

theorem IsMuddled.signs {k l m : Comparand} (h : IsMuddled k l m) {x y : Int}
    (hx : k.sign l = .ok x)
    (hy : l.sign m = .ok y) : x = 0 ∧ y = 0 := by
  cases h with
  | nan hk hm => exact ⟨(sign_nan hk).1 hx, (sign_nan hm).2 hy⟩
  | @rounded i j z hi hj =>
    have hzero : signOf ((z.order? z).getD .eq) = 0 := by
      by_cases hz : z = .nan
      . rw [hz]
        rfl
      . rw [Double.order?_eq hz hz, compare_eq_iff_eq.mpr rfl]
        rfl
    obtain ⟨u, hu, rfl⟩ := differenceSign_ok hx
    obtain ⟨v, hv, hyv⟩ := differenceSign_ok (sign_real_exact hy)
    rw [hi] at hu
    rw [hj] at hv
    cases hu
    cases hv
    exact ⟨hzero, by omega⟩
  | kinds hne =>
    cases hx
    cases hy
    exact ⟨if_neg hne, if_neg (Ne.symm hne)⟩

theorem numbers_trans {k l m : Comparand} (hk : k.place = 1) (hl : l.place = 1) (hm : m.place = 1)
    {x y z : Int} (hx : k.sign l = .ok x) (hy : l.sign m = .ok y) (hz : k.sign m = .ok z)
    (hle : x ≤ 0) (hle' : y ≤ 0)
    : z ≤ 0 ∨ IsMuddled k l m := by
  by_cases hln : l = .real .nan
  . rw [hln]
    exact .inr (.nan hk hm)
  by_cases hkn : k = .real .nan
  . rw [hkn] at hz
    exact .inl (Int.le_of_eq ((sign_nan hm).2 hz))
  by_cases hmn : m = .real .nan
  . rw [hmn] at hz
    exact .inl (Int.le_of_eq ((sign_nan hk).1 hz))
  have hkl := numberPlace_le hk hl hkn hln hx hle
  have hlm := numberPlace_le hl hm hln hmn hy hle'
  by_cases hexact : AreExact k m
  . obtain ⟨i, j, rfl, rfl⟩ := hexact
    cases hz
    rw [signOf_compare_nonpos]
    by_cases hij : i ≤ j
    . exact .inl hij
    -- both integers have the place of the one in the middle, which is then no integer
    have hji : Double.roundedPlace j ≤ Double.roundedPlace i := Double.roundedPlace_mono (by omega)
    cases l with
    | exact n =>
      cases hx
      cases hy
      rw [signOf_compare_nonpos] at hle hle'
      omega
    | real w =>
      obtain ⟨u, hu, _⟩ := differenceSign_ok hx
      obtain ⟨v, hv, _⟩ := differenceSign_ok (sign_real_exact hy)
      obtain ⟨hun, hup⟩ := Double.ofInt?_eq_some hu
      obtain ⟨hvn, hvp⟩ := Double.ofInt?_eq_some hv
      dsimp only [numberPlace] at hkl hlm
      have hw : w ≠ .nan := fun hw => hln (hw ▸ rfl)
      have hzero : Double.roundedPlace i ≠ 0 ∨ Double.roundedPlace j ≠ 0 := by
        by_cases hi : i = 0
        . exact .inr (Double.roundedPlace_ne_zero (by omega))
        . exact .inl (Double.roundedPlace_ne_zero hi)
      have huw : u = w := Double.eq_of_place hun hw (by omega) (by omega)
      have hvw : v = w := Double.eq_of_place hvn hw (by omega) (by omega)
      exact .inr (.rounded (huw ▸ hu) (hvw ▸ hv))
    | _ => cases hl
  . rw [sign_of_numbers hk hm hkn hmn hexact hz, signOf_compare_nonpos]
    exact .inl (hkl.trans hlm)

theorem sign_swap {k l : Comparand} {d : Int} (h : k.sign l = .ok d)
    : IsSign d ∧ l.sign k = .ok (-d) := by
  by_cases hplace : k.place = l.place
  . cases areBeside_of_place hplace with
    | null =>
      cases h
      exact ⟨signOf_isSign _, rfl⟩
    | exact m n =>
      cases h
      refine ⟨signOf_isSign _, ?_⟩
      rw [← signOf_order_swap compare]
      rfl
    | exactReal m y =>
      obtain ⟨u, hu, rfl⟩ := differenceSign_ok h
      refine ⟨signOf_isSign _, ?_⟩
      have hdifference : differenceSign m y = .ok _ := h
      rw [sign, hdifference]
      rfl
    | realExact x n =>
      have hdifference := sign_real_exact h
      obtain ⟨u, hu, hd⟩ := differenceSign_ok hdifference
      refine ⟨?_, hdifference⟩
      rw [← Int.neg_neg d, hd, ← signOf_swap]
      exact signOf_isSign _
    | real x y =>
      cases h
      refine ⟨signOf_isSign _, ?_⟩
      rw [sign, Double.order?_swap, ← signOf_swap]
      cases x.order? y <;> rfl
    | text s t =>
      cases h
      refine ⟨signOf_isSign _, ?_⟩
      rw [← signOf_order_swap]
      rfl
    | compound v w =>
      obtain ⟨left, hleft, h⟩ := then_ok h
      obtain ⟨right, hright, h⟩ := then_ok h
      cases h
      refine ⟨signOf_isSign _, ?_⟩
      rw [← signOf_order_swap, sign, hleft, hright]
      rfl
    | boolean b c =>
      cases h
      refine ⟨signOf_isSign _, ?_⟩
      rw [← signOf_order_swap compare]
      rfl
    | other kind kind' s t =>
      cases h
      by_cases hkind : kind = kind'
      . rw [sign, if_pos hkind, if_pos hkind.symm, ← signOf_order_swap listOrder]
        exact ⟨signOf_isSign _, rfl⟩
      . rw [sign, if_neg hkind, if_neg (Ne.symm hkind)]
        exact ⟨.inr (.inl rfl), rfl⟩
  -- the groups are apart, and so are their places the other way round
  . rw [sign_of_place_ne hplace] at h
    cases h
    refine ⟨signOf_isSign _, ?_⟩
    rw [sign_of_place_ne (Ne.symm hplace), signOf_order_swap compare]

theorem place_le {k l : Comparand} {d : Int} (h : k.sign l = .ok d) (hd : d ≤ 0)
    : k.place ≤ l.place := by
  by_cases hplace : k.place = l.place
  . exact Nat.le_of_eq hplace
  . rw [sign_of_place_ne hplace] at h
    cases h
    rw [signOf_nonpos, Nat.isLE_compare] at hd
    exact hd

theorem compounds_trans {u v w : Value} {x y z : Int} (hx : (compound u).sign (.compound v) = .ok x)
    (hy : (compound v).sign (.compound w) = .ok y) (hz : (compound u).sign (.compound w) = .ok z)
    (hle : x ≤ 0)
    (hle' : y ≤ 0) : z ≤ 0 := by
  obtain ⟨left, hleft, hx⟩ := then_ok hx
  obtain ⟨middle, hmiddle, hx⟩ := then_ok hx
  rw [sign, hmiddle] at hy
  obtain ⟨right, hright, hy⟩ := then_ok (show (w.canonical >>= _) = _ from hy)
  rw [sign, hleft, hright] at hz
  cases hx
  cases hy
  cases hz
  exact signOf_order_trans canonicalOrder hle hle'

theorem sign_trans {k l m : Comparand} {x y z : Int} (hx : k.sign l = .ok x) (hy : l.sign m = .ok y)
    (hz : k.sign m = .ok z) (hle : x ≤ 0) (hle' : y ≤ 0) : z ≤ 0 ∨ IsMuddled k l m := by
  have hkl := place_le hx hle
  have hlm := place_le hy hle'
  by_cases hkm : k.place = m.place
  -- all three are of one group, and the order within the group decides
  . have hl := areBeside_of_place (show l.place = m.place by omega)
    cases areBeside_of_place hkm with
    | null =>
      cases hz
      exact .inl (by decide)
    | exact | exactReal | realExact | real =>
      have hplace : l.place = 1 := by cases hl <;> rfl
      exact numbers_trans rfl hplace rfl hx hy hz hle hle'
    | text s u =>
      cases hl
      cases hx
      cases hy
      cases hz
      exact .inl (signOf_order_trans listOrder hle hle')
    | compound u w =>
      cases hl
      exact .inl (compounds_trans hx hy hz hle hle')
    | boolean b d =>
      cases hl
      cases hx
      cases hy
      cases hz
      exact .inl (signOf_order_trans compare hle hle')
    | other kind kind' s u =>
      cases hl with
      | other kind'' =>
        cases hx
        cases hy
        cases hz
        -- kinds of the last group count as equal, so that only what is between two of one kind can
        -- muddle
        by_cases hkind : kind = kind'
        . by_cases hmiddle : kind = kind''
          . rw [if_pos hmiddle] at hle
            rw [if_pos (hmiddle.symm.trans hkind)] at hle'
            rw [if_pos hkind]
            exact .inl (signOf_order_trans listOrder hle hle')
          . rw [hkind] at hmiddle ⊢
            exact .inr (.kinds hmiddle)
        . rw [if_neg hkind]
          exact .inl (Int.le_refl 0)
  . rw [sign_of_place_ne hkm] at hz
    cases hz
    rw [signOf_nonpos, Nat.isLE_compare]
    exact .inl (by omega)

inductive IsRefused : Comparand → Comparand → Prop where
  | hugeLeft {n x} (h : Double.leastHuge ≤ n.natAbs) : IsRefused (.exact n) (.real x)
  | hugeRight {n x} (h : Double.leastHuge ≤ n.natAbs) : IsRefused (.real x) (.exact n)
  | long {v w} (h : v.isLong = true ∨ w.isLong = true) : IsRefused (.compound v) (.compound w)

theorem differenceSign_error {n : Int} {x : Double}
    : (∃ err, differenceSign n x = .error err) ↔ Double.leastHuge ≤ n.natAbs := by
  rw [← Double.ofInt?_eq_none_iff]
  unfold differenceSign
  cases Double.ofInt? n with
  | none => exact ⟨fun _ => rfl, fun _ => ⟨_, rfl⟩⟩
  | some y => exact ⟨nofun, nofun⟩

theorem canonical_pair_error {v w : Value} (hv : v.IsSortable) (hw : w.IsSortable)
    : (∃ err, (compound v).sign (.compound w) = .error err) ↔
      v.isLong = true ∨ w.isLong = true := by
  rw [sign]
  cases hvlong : v.isLong with
  | true =>
    obtain ⟨err, herr⟩ := hv.canonical.2 hvlong
    rw [herr]
    exact ⟨fun _ => .inl rfl, fun _ => ⟨err, rfl⟩⟩
  | false =>
    obtain ⟨left, hleft⟩ := hv.canonical.1 hvlong
    rw [hleft]
    cases hwlong : w.isLong with
    | true =>
      obtain ⟨err, herr⟩ := hw.canonical.2 hwlong
      rw [herr]
      exact ⟨fun _ => .inr rfl, fun _ => ⟨err, rfl⟩⟩
    | false =>
      obtain ⟨right, hright⟩ := hw.canonical.1 hwlong
      rw [hright]
      exact ⟨nofun, nofun⟩

theorem sign_error {k l : Comparand} (hk : ∀ v, k = .compound v → v.IsSortable)
    (hl : ∀ v, l = .compound v → v.IsSortable)
    : (∃ err, k.sign l = .error err) ↔ IsRefused k l := by
  have hanswered : ∀ {d : Int}, ¬ IsRefused k l → k.sign l = .ok d →
      ((∃ err, k.sign l = .error err) ↔ IsRefused k l) := by
    intro d hrefused hd
    refine ⟨?_, fun h => absurd h hrefused⟩
    rintro ⟨err, herr⟩
    rw [hd] at herr
    cases herr
  by_cases hplace : k.place = l.place
  . cases areBeside_of_place hplace with
    | exactReal m y =>
      refine differenceSign_error.trans ⟨.hugeLeft, ?_⟩
      intro h
      cases h with
      | hugeLeft h => exact h
    | realExact x n =>
      have hneg : (∃ err, (real x).sign (.exact n) = .error err) ↔
          ∃ err, differenceSign n x = .error err := by
        rw [sign]
        cases differenceSign n x with
        | error err => exact ⟨fun _ => ⟨err, rfl⟩, fun _ => ⟨err, rfl⟩⟩
        | ok d => exact ⟨nofun, nofun⟩
      refine (hneg.trans differenceSign_error).trans ⟨.hugeRight, ?_⟩
      intro h
      cases h with
      | hugeRight h => exact h
    | compound v w =>
      refine (canonical_pair_error (hk v rfl) (hl w rfl)).trans ⟨.long, ?_⟩
      intro h
      cases h with
      | long h => exact h
    | _ => exact hanswered nofun rfl
  . exact hanswered (fun h => by cases h <;> exact hplace rfl) (sign_of_place_ne hplace)

end Comparand

end DocStore
