import Mathlib.Data.List.Pairwise
import Mathlib.Data.Nat.SuccPred
import DocStore.Engine.Search
import DocStore.Proofs.Order.StableSort
import DocStore.Proofs.Order.StableSort.Image
import DocStore.Proofs.Order.Standing

/-!
This module contains the proof that documents are sorted by several fields, if the values there are
of the kinds that have an order, and that equal documents keep their order. The sort fails exactly
if two documents are told apart by nothing but two lists or objects of which one has no canonical
text.
-/

namespace DocStore

open Work

namespace Direction

def order (d : Direction) {α : Type} (order : α → α → Ordering) (a b : α) : Ordering :=
  match d with
  | .ascending => order a b
  | .descending => order b a

instance (d : Direction) {α : Type} (order : α → α → Ordering) [Std.TransCmp order]
    : Std.TransCmp (d.order order) := by
  cases d with
  | ascending => exact inferInstanceAs (Std.TransCmp order)
  | descending => exact inferInstanceAs (Std.TransCmp fun a b => order b a)

theorem signOf_order (d : Direction) {α : Type} (order : α → α → Ordering) [Std.TransCmp order]
    (a b : α)
    : signOf (d.order order a b) = signOf (order a b) * d.sign := by
  cases d with
  | ascending => exact (Int.mul_one _).symm
  | descending =>
    rw [sign, Int.mul_neg, Int.mul_one, ← signOf_order_swap]
    rfl

theorem mul_sign_eq_zero {d : Direction} {r : Int} : r * d.sign = 0 ↔ r = 0 := by
  cases d with
  | ascending => rw [sign, Int.mul_one]
  | descending =>
    rw [sign]
    omega

theorem eq_neg_sign {d : Direction} {r : Int} (h : IsSign (r * d.sign)) (hneg : r * d.sign < 0)
    : r = -d.sign := by
  unfold IsSign at h
  cases d with
  | ascending =>
    rw [sign] at *
    omega
  | descending =>
    rw [sign] at *
    omega

theorem order_apart (d : Direction) {α : Type} {order order' : α → α → Ordering}
    [Std.TransCmp order] [Std.TransCmp order'] {a b : α} (hlt : order a b = .lt)
    (hgt : order' a b = .gt)
    : d.order order a b = .lt ∧ d.order order' a b = .gt ∨
      d.order order' a b = .lt ∧ d.order order a b = .gt := by
  cases d with
  | ascending => exact .inl ⟨hlt, hgt⟩
  | descending => exact .inr ⟨Std.OrientedCmp.lt_of_gt hgt, Std.OrientedCmp.gt_of_lt hlt⟩

end Direction

namespace SortKey

def compare (k : SortKey) (a b : Fields) : Except Fault Int := do
  compareValues (← getField (.object a) k.field) (← getField (.object b) k.field)

/-- The value that a document has in a field is of one of the kinds that have an order. -/
def FindsListed (k : SortKey) (d : Fields) : Prop :=
  ∃ v, getField (.object d) k.field = .ok v ∧ v.IsListed

def AreListed (keys : List SortKey) (d : Fields) : Prop := ∀ k ∈ keys, k.FindsListed d

def Tie (keys : List SortKey) (a b : Fields) : Prop := ∀ k ∈ keys, k.compare a b = .ok 0

def Leads (keys : List SortKey) (a b : Fields) : Prop :=
  ∃ before k after, keys = before ++ k :: after ∧ Tie before a b ∧
    k.compare a b = .ok (-k.direction.sign)

/-- No key tells two documents apart up to one at which their values are not compared. -/
def Clash (keys : List SortKey) (a b : Fields) : Prop :=
  ∃ before k after v w, keys = before ++ k :: after ∧ Tie before a b ∧
    getField (.object a) k.field = .ok v
    ∧ getField (.object b) k.field = .ok w ∧ v.AreRefused w

theorem Clash.cons {k : SortKey} {keys : List SortKey} {a b : Fields} (hk : k.compare a b = .ok 0)
    (h : Clash keys a b) : Clash (k :: keys) a b := by
  obtain ⟨before, k', after, v, w, rfl, htie, h⟩ := h
  exact ⟨k :: before, k', after, v, w, rfl, List.forall_mem_cons.mpr ⟨hk, htie⟩, h⟩

theorem Leads.cons {k : SortKey} {keys : List SortKey} {a b : Fields} (hk : k.compare a b = .ok 0)
    (h : Leads keys a b) : Leads (k :: keys) a b := by
  obtain ⟨before, k', after, rfl, htie, h⟩ := h
  exact ⟨k :: before, k', after, rfl, List.forall_mem_cons.mpr ⟨hk, htie⟩, h⟩

theorem AreListed.of_append {before after : List SortKey} {d : Fields}
    (h : AreListed (before ++ after) d)
    : AreListed before d := fun k hk => h k (List.mem_append_left _ hk)

theorem Tie.swap {keys : List SortKey} {a b : Fields} (ha : AreListed keys a)
    (hb : AreListed keys b)
    (h : Tie keys a b) : Tie keys b a := by
  intro k hk
  obtain ⟨v, hv, hvl⟩ := ha k hk
  obtain ⟨w, hw, hwl⟩ := hb k hk
  have hzero := h k hk
  rw [compare, hv, hw] at hzero
  rw [compare, hv, hw]
  exact Value.compareValues_swap hvl hwl hzero

theorem Clash.swap {keys : List SortKey} {a b : Fields} (ha : AreListed keys a)
    (hb : AreListed keys b)
    (h : Clash keys a b) : Clash keys b a := by
  obtain ⟨before, k, after, v, w, rfl, htie, hv, hw, h⟩ := h
  exact ⟨before, k, after, w, v, rfl, htie.swap ha.of_append hb.of_append, hw, hv, h.swap⟩

def standing (k : SortKey) (level : Int) (d : Fields) : Standing :=
  match getField (.object d) k.field with
  | .ok v => v.comparand.standing level
  | .error _ => ⟨0, 0, []⟩

theorem standing_of_found {k : SortKey} {d : Fields} {v : Value}
    (h : getField (.object d) k.field = .ok v)
    (level : Int) : k.standing level d = v.comparand.standing level := by
  rw [standing, h]

def order (k : SortKey) (level : Nat → Int) : Fields × Nat → Fields × Nat → Ordering :=
  k.direction.order (compareOn fun p => k.standing (level p.2) p.1)

instance (k : SortKey) (level : Nat → Int) : Std.TransCmp (k.order level) :=
  inferInstanceAs (Std.TransCmp (k.direction.order _))

def orderBy (level : Nat → Int) : List SortKey → Fields × Nat → Fields × Nat → Ordering
  | [] => fun _ _ => .eq
  | k :: ks => compareLex (k.order level) (orderBy level ks)

instance (level : Nat → Int) (keys : List SortKey) : Std.TransCmp (orderBy level keys) := by
  induction keys with
  | nil => exact { eq_swap := rfl, isLE_trans := fun _ _ => rfl }
  | cons k ks ih =>
    exact inferInstanceAs (Std.TransCmp (compareLex (k.order level) (orderBy level ks)))

theorem compare_ends (level : Nat → Int) {k : SortKey} {a b : Fields × Nat} {v w : Value}
    (hv : getField (.object a.1) k.field = .ok v) (hw : getField (.object b.1) k.field = .ok w)
    (hvl : v.IsListed) (hwl : w.IsListed)
    : Ends (k.compare a.1 b.1) (fun r => r * k.direction.sign = signOf (k.order level a b)) fun _ =>
        v.AreRefused w := by
  rw [compare, hv, hw]
  refine (Value.compareValues_ends hvl hwl (level a.2) (level b.2)).imp fun r hr => ?_
  rw [order, Direction.signOf_order, hr, compareOn, standing_of_found hv, standing_of_found hw]
  rfl

theorem order_of_tie (level : Nat → Int) {k : SortKey} {a b : Fields × Nat} (ha : k.FindsListed a.1)
    (hb : k.FindsListed b.1) (h : k.compare a.1 b.1 = .ok 0) : k.order level a b = .eq := by
  obtain ⟨v, hv, hvl⟩ := ha
  obtain ⟨w, hw, hwl⟩ := hb
  have hsign := (compare_ends level hv hw hvl hwl).yields 0 h
  rw [Int.zero_mul] at hsign
  cases ho : k.order level a b with
  | eq => rfl
  | _ =>
    rw [ho] at hsign
    cases hsign

structure IsAnswer (level : Nat → Int) (keys : List SortKey) (a b : Fields × Nat) (r : Int)
    : Prop where
  sign : r = signOf (orderBy level keys a b)
  tie : r = 0 → Tie keys a.1 b.1
  leads : r < 0 → Leads keys a.1 b.1

theorem compareDocuments_ends (level : Nat → Int) {keys : List SortKey} {a b : Fields × Nat}
    (ha : AreListed keys a.1) (hb : AreListed keys b.1)
    : Ends (compareDocuments (.object a.1) (.object b.1) keys) (IsAnswer level keys a b) fun _ =>
        Clash keys a.1 b.1 := by
  induction keys with
  | nil => exact ends_ok ⟨rfl, fun _ => nofun, fun h => absurd h (Int.lt_irrefl 0)⟩
  | cons k ks ih =>
    obtain ⟨⟨v, hv, hvl⟩, has⟩ := List.forall_mem_cons.mp ha
    obtain ⟨⟨w, hw, hwl⟩, hbs⟩ := List.forall_mem_cons.mp hb
    have hends := compare_ends level hv hw hvl hwl
    have hcompare : k.compare a.1 b.1 = compareValues v w := by
      rw [compare, hv, hw]
      rfl
    rw [compareDocuments, hv, hw]
    -- the two fields are looked up within the comparison of documents, and not by the comparison at
    -- the key
    change Ends (compareValues v w >>= _) _ _
    rw [← hcompare]
    cases hr : k.compare a.1 b.1 with
    | error err =>
      exact ⟨yields_error, blames_error ⟨[], k, ks, v, w, rfl, nofun, hv, hw, hends.blames err hr⟩⟩
    | ok r =>
      have hsign := hends.yields r hr
      have horder : orderBy level (k :: ks) a b = (k.order level a b).then (orderBy level ks a b) :=
        rfl
      change Ends (if r ≠ 0 then .ok (r * k.direction.sign) else compareDocuments _ _ ks) _ _
      split
      next hne =>
        refine ends_ok ⟨?_, fun hzero => absurd (Direction.mul_sign_eq_zero.mp hzero) hne,
          fun hneg => ?_⟩
        . rw [horder, hsign]
          cases ho : k.order level a b with
          | eq =>
            rw [ho] at hsign
            exact absurd (Direction.mul_sign_eq_zero.mp hsign) hne
          | _ => rfl
        . have hone : IsSign (r * k.direction.sign) := hsign ▸ signOf_isSign _
          exact ⟨[], k, ks, rfl, nofun, by rw [hr, Direction.eq_neg_sign hone hneg]⟩
      next hzero =>
        have hzero : r = 0 := not_not.mp hzero
        rw [hzero] at hr
        have heq : k.order level a b = .eq := order_of_tie level ⟨v, hv, hvl⟩ ⟨w, hw, hwl⟩ hr
        have hrest := ih has hbs
        refine ⟨fun s hs => ⟨?_, fun h => ?_, fun h => ?_⟩, fun err herr =>
          (hrest.blames err herr).cons hr⟩
        . rw [horder, heq]
          exact (hrest.yields s hs).sign
        . exact List.forall_mem_cons.mpr ⟨hr, (hrest.yields s hs).tie h⟩
        . exact ((hrest.yields s hs).leads h).cons hr

theorem orderBy_of_tie (level : Nat → Int) {before keys : List SortKey} {a b : Fields × Nat}
    (ha : AreListed before a.1) (hb : AreListed before b.1) (h : Tie before a.1 b.1)
    : orderBy level (before ++ keys) a b = orderBy level keys a b := by
  induction before with
  | nil => rfl
  | cons k ks ih =>
    obtain ⟨ha, has⟩ := List.forall_mem_cons.mp ha
    obtain ⟨hb, hbs⟩ := List.forall_mem_cons.mp hb
    obtain ⟨hk, hks⟩ := List.forall_mem_cons.mp h
    rw [List.cons_append, orderBy, compareLex, order_of_tie level ha hb hk]
    exact ih has hbs hks

theorem Clash.levels {keys : List SortKey} {a b : Fields × Nat} (ha : AreListed keys a.1)
    (hb : AreListed keys b.1) (hne : a.2 ≠ b.2) (h : Clash keys a.1 b.1)
    : ∃ level level', orderBy level keys a b = .lt ∧ orderBy level' keys a b = .gt := by
  obtain ⟨before, k, after, v, w, rfl, htie, hv, hw, hrefused⟩ := h
  obtain ⟨m, n, m', n', hlt, hgt⟩ := hrefused.levels
  -- the positions differ, so that the two values can be put at any levels
  have hlevel : ∀ m n : Int, ∃ level : Nat → Int, level a.2 = m ∧ level b.2 = n := fun m n =>
    ⟨fun p => if p = a.2 then m else n, if_pos rfl, if_neg hne.symm⟩
  have horder : ∃ level level', k.order level a b = .lt ∧ k.order level' a b = .gt := by
    obtain ⟨level, rfl, rfl⟩ := hlevel m n
    obtain ⟨level', rfl, rfl⟩ := hlevel m' n'
    rw [← standing_of_found hv, ← standing_of_found hw] at hlt hgt
    change compareOn (fun p : Fields × Nat => k.standing (level p.2) p.1) a b = .lt at hlt
    change compareOn (fun p : Fields × Nat => k.standing (level' p.2) p.1) a b = .gt at hgt
    rcases k.direction.order_apart hlt hgt with h | h
    . exact ⟨level, level', h⟩
    . exact ⟨level', level, h⟩
  obtain ⟨level, level', hlt, hgt⟩ := horder
  refine ⟨level, level', ?_, ?_⟩
  . rw [orderBy_of_tie level ha.of_append hb.of_append htie, orderBy, compareLex, hlt]
    rfl
  . rw [orderBy_of_tie level' ha.of_append hb.of_append htie, orderBy, compareLex, hgt]
    rfl

def Before (level : Nat → Int) (keys : List SortKey) (a b : Fields × Nat) : Prop :=
  compareLex (orderBy level keys) (compareOn Prod.snd) a b = .lt

structure Earlier (docs : List Fields) (a b : Fields × Nat) : Prop where
  left : a ∈ docs.zipIdx
  right : b ∈ docs.zipIdx
  lt : a.2 < b.2

def less (keys : List SortKey) (a b : Value) : Except Fault Bool :=
  do return decide ((← compareDocuments a b keys) < 0)

theorem before_of_answer {level : Nat → Int} {keys : List SortKey} {a b : Fields × Nat} {r : Int}
    (hlt : a.2 < b.2)
    (h : IsAnswer level keys b a r)
    : if decide (r < 0) then Before level keys b a else Before level keys a b := by
  have hr := h.sign
  have hswap : orderBy level keys b a = (orderBy level keys a b).swap := Std.OrientedCmp.eq_swap
  have hpositions : compareOn Prod.snd a b = .lt := Nat.compare_eq_lt.mpr hlt
  -- the later document is the one on the left, so that a tie is in favour of the earlier one
  rw [hswap] at hr
  unfold Before compareLex
  rw [hpositions, hr, hswap]
  cases orderBy level keys a b with
  | lt => rfl
  | eq => rfl
  | gt => rfl

theorem less_tells (level : Nat → Int) {keys : List SortKey} {docs : List Fields}
    (hlisted : ∀ d ∈ docs, AreListed keys d)
    : StableSort.Tells (Function.onFun (less keys) fun p : Fields × Nat => .object p.1)
      (Earlier docs)
        (Before level keys) fun _ => ∃ a b, Earlier docs a b ∧ Clash keys a.1 b.1 := by
  refine ⟨fun hab hbc => Std.TransCmp.lt_trans hab hbc, fun {a b} hab => ?_⟩
  have ha := hlisted a.1 (List.fst_mem_of_mem_zipIdx hab.left)
  have hb := hlisted b.1 (List.fst_mem_of_mem_zipIdx hab.right)
  have hends := compareDocuments_ends level hb ha
  have hclash : Ends (compareDocuments (.object b.1) (.object a.1) keys) (IsAnswer level keys b a)
      fun _ =>
      ∃ a b, Earlier docs a b ∧ Clash keys a.1 b.1 :=
    ⟨hends.yields, fun err herr => ⟨a, b, hab, (hends.blames err herr).swap hb ha⟩⟩
  exact ends_bind hclash fun r hr => ends_ok (before_of_answer hab.lt hr)

def sortPlaced (keys : List SortKey) (docs : List Fields) : Except Fault (List (Fields × Nat)) :=
  match keys with
  | [] => .ok docs.zipIdx
  | keys => StableSort.sort (Function.onFun (less keys) fun p => .object p.1) docs.zipIdx

theorem sortDocuments_eq (keys : List SortKey) (docs : List Fields)
    : sortDocuments (docs.map .object) keys =
      (sortPlaced keys docs).map (List.map fun p => .object p.1) := by
  have hdocs : docs.map Value.object = docs.zipIdx.map fun p => .object p.1 := by
    have hfst : (docs.zipIdx.map Prod.fst).map Value.object =
        docs.zipIdx.map fun p => .object p.1 := List.map_map
    rwa [List.zipIdx_map_fst] at hfst
  cases keys with
  | nil => exact congrArg Except.ok hdocs
  | cons k ks =>
    rw [hdocs]
    exact StableSort.sort_image (less (k :: ks)) (fun p => .object p.1) docs.zipIdx

theorem zipIdx_earlier (docs : List Fields) : docs.zipIdx.Pairwise (Earlier docs) := by
  have hpositions : (docs.zipIdx.map Prod.snd).Pairwise (· < ·) := by
    rw [List.zipIdx_map_snd]
    exact List.pairwise_lt_range'
  exact (List.pairwise_map.mp hpositions).imp_of_mem fun ha hb hlt => ⟨ha, hb, hlt⟩

theorem pairwise_iff_earlier {R : Fields → Fields → Prop} {docs : List Fields}
    : docs.Pairwise R ↔ ∀ a b, Earlier docs a b → R a.1 b.1 := by
  constructor
  . intro h a b hab
    obtain ⟨hi, ha⟩ := List.mem_zipIdx' hab.left
    obtain ⟨hj, hb⟩ := List.mem_zipIdx' hab.right
    rw [ha, hb]
    exact List.pairwise_iff_getElem.mp h a.2 b.2 hi hj hab.lt
  . intro h
    have hplaced : docs.zipIdx.Pairwise fun a b => R a.1 b.1 := (zipIdx_earlier docs).imp (h _ _)
    have hmap : (docs.zipIdx.map Prod.fst).Pairwise R := List.pairwise_map.mpr hplaced
    rwa [List.zipIdx_map_fst] at hmap

theorem sortPlaced_ends (level : Nat → Int) {keys : List SortKey} {docs : List Fields}
    (hlisted : ∀ d ∈ docs, AreListed keys d)
    : Ends (sortPlaced keys docs) (fun ps => ps.Perm docs.zipIdx ∧ ps.Pairwise (Before level keys))
      fun _ =>
        ∃ a b, Earlier docs a b ∧ Clash keys a.1 b.1 := by
  cases keys with
  | nil =>
    exact ends_ok ⟨.refl _, (zipIdx_earlier docs).imp fun hab => Nat.compare_eq_lt.mpr hab.lt⟩
  | cons k ks => exact StableSort.sort_ends (less_tells level hlisted) (zipIdx_earlier docs)

theorem earlier_or {docs : List Fields} {a b : Fields × Nat} (ha : a ∈ docs.zipIdx)
    (hb : b ∈ docs.zipIdx)
    (hne : a ≠ b) : Earlier docs a b ∨ Earlier docs b a := by
  rcases Nat.lt_trichotomy a.2 b.2 with h | h | h
  . exact .inl ⟨ha, hb, h⟩
  . obtain ⟨_, ha⟩ := List.mem_zipIdx' ha
    obtain ⟨_, hb⟩ := List.mem_zipIdx' hb
    refine absurd (Prod.ext ?_ h) hne
    rw [ha, hb]
    congr 1
  . exact .inr ⟨hb, ha, h⟩

theorem not_before_of_gt {level : Nat → Int} {keys : List SortKey} {a b : Fields × Nat}
    (h : orderBy level keys a b = .gt) : ¬ Before level keys a b := by
  unfold Before compareLex
  rw [h]
  nofun

theorem related_or {α : Type} {R : α → α → Prop} {xs : List α} (h : xs.Pairwise R) {a b : α}
    (ha : a ∈ xs)
    (hb : b ∈ xs) (hne : a ≠ b) : R a b ∨ R b a := by
  have hsymm : Std.Symm fun a b => R a b ∨ R b a := ⟨fun _ _ => Or.symm⟩
  have heither : xs.Pairwise fun a b => R a b ∨ R b a := h.imp .inl
  exact heither.forall ha hb hne

/--
A sort of documents of which two clash does not answer: it would have to put them in either order.
-/
theorem sortPlaced_not_clash {keys : List SortKey} {docs : List Fields}
    (hlisted : ∀ d ∈ docs, AreListed keys d)
    {ps : List (Fields × Nat)} (hps : sortPlaced keys docs = .ok ps)
    : docs.Pairwise fun a b => ¬ Clash keys a b := by
  refine pairwise_iff_earlier.mpr fun a b hab hclash => ?_
  have ha := hlisted a.1 (List.fst_mem_of_mem_zipIdx hab.left)
  have hb := hlisted b.1 (List.fst_mem_of_mem_zipIdx hab.right)
  -- the same run is in order for both levels, although these put the two documents the other way
  -- round
  obtain ⟨level, level', hlt, hgt⟩ := hclash.levels ha hb (Nat.ne_of_lt hab.lt)
  obtain ⟨hperm, hbefore⟩ := (sortPlaced_ends level hlisted).yields ps hps
  obtain ⟨_, hbefore'⟩ := (sortPlaced_ends level' hlisted).yields ps hps
  have hne : a ≠ b := fun h => Nat.lt_irrefl _ (h ▸ hab.lt)
  rcases related_or (hbefore.and hbefore') (hperm.mem_iff.mpr hab.left)
    (hperm.mem_iff.mpr hab.right) hne with h | h
  . exact not_before_of_gt hgt h.2
  . exact not_before_of_gt (Std.OrientedCmp.gt_of_lt hlt) h.1

theorem leads_or_tie {level : Nat → Int} {keys : List SortKey} {docs : List Fields}
    (hlisted : ∀ d ∈ docs, AreListed keys d) (hclash : docs.Pairwise fun a b => ¬ Clash keys a b)
    {a b : Fields × Nat} (ha : a ∈ docs.zipIdx) (hb : b ∈ docs.zipIdx) (h : Before level keys a b)
    : Leads keys a.1 b.1 ∨ Tie keys a.1 b.1 ∧ a.2 < b.2 := by
  have hal := hlisted a.1 (List.fst_mem_of_mem_zipIdx ha)
  have hbl := hlisted b.1 (List.fst_mem_of_mem_zipIdx hb)
  have hne : a ≠ b := by
    rintro rfl
    have hself : compareLex (orderBy level keys) (compareOn Prod.snd) a a = .eq :=
      Std.ReflCmp.compare_self
    rw [Before, hself] at h
    cases h
  have hclash : ¬ Clash keys a.1 b.1 := by
    rcases earlier_or ha hb hne with hab | hba
    . exact pairwise_iff_earlier.mp hclash a b hab
    . exact fun h => pairwise_iff_earlier.mp hclash b a hba (h.swap hal hbl)
  have hends := compareDocuments_ends level hal hbl
  cases hr : compareDocuments (.object a.1) (.object b.1) keys with
  | error err => exact absurd (hends.blames err hr) hclash
  | ok r =>
    have hanswer := hends.yields r hr
    have hsign := hanswer.sign
    unfold Before compareLex at h
    cases ho : orderBy level keys a b with
    | lt =>
      rw [ho] at hsign
      exact .inl (hanswer.leads (hsign ▸ by decide))
    | eq =>
      rw [ho] at hsign h
      exact .inr ⟨hanswer.tie hsign, Nat.compare_eq_lt.mp h⟩
    | gt => exact absurd h (not_before_of_gt ho)

end SortKey

namespace Collection

open SortKey

/--
Documents of which the values in the fields of a sort have an order are sorted, unless two of them
clash. The answer holds the documents in such an order that of any two either the first key that
tells them apart puts one before the other in its direction, or no key does and they keep their
order.
-/
theorem sorted_exactly {docs : List Fields} {sort : Value} {keys : List SortKey}
    (hkeys : SortKey.ofValue sort = .ok keys) (hlisted : ∀ d ∈ docs, AreListed keys d)
    : ((∃ result, sorted docs sort = .ok result) ↔ docs.Pairwise fun a b => ¬ Clash keys a b)
      ∧ ∀ result, sorted docs sort = .ok result →
        ∃ ps : List (Fields × Nat), ps.Perm docs.zipIdx ∧ result = ps.map (fun p => .object p.1)
          ∧ ps.Pairwise fun a b => Leads keys a.1 b.1 ∨ Tie keys a.1 b.1 ∧ a.2 < b.2 := by
  have hsorted : sorted docs sort =
      ((sortPlaced keys docs).map (List.map fun p => .object p.1)).mapError .fault := by
    rw [← sortDocuments_eq, sorted, hkeys]
    rfl
  have hends := sortPlaced_ends (fun _ => 0) hlisted
  rw [hsorted]
  cases hps : sortPlaced keys docs with
  | error err =>
    obtain ⟨a, b, hab, hclash⟩ := hends.blames err hps
    refine ⟨iff_of_false nofun fun h => ?_, nofun⟩
    exact pairwise_iff_earlier.mp h a b hab hclash
  | ok ps =>
    have hclash := sortPlaced_not_clash hlisted hps
    obtain ⟨hperm, hbefore⟩ := hends.yields ps hps
    refine ⟨iff_of_true ⟨_, rfl⟩ hclash, fun result hresult => ⟨ps, hperm, ?_, ?_⟩⟩
    . cases hresult
      rfl
    . exact hbefore.imp_of_mem fun ha hb h =>
        leads_or_tie hlisted hclash (hperm.mem_iff.mp ha) (hperm.mem_iff.mp hb) h

theorem sorted_exactly_descending
    : SortKey.ofValue (.object [(.text "a", .int (-1))]) = .ok [⟨.text "a", .descending⟩]
      ∧ ∃ ps : List (Fields × Nat),
        ps.Perm [([(.text "a", .int 1)], 0), ([(.text "a", .text "x")], 1)]
        ∧ [Value.object [(.text "a", .text "x")], .object [(.text "a", .int 1)]] =
          ps.map (fun p => .object p.1)
        ∧ ps.Pairwise fun a b =>
          Leads [⟨.text "a", .descending⟩] a.1 b.1 ∨ Tie [⟨.text "a", .descending⟩] a.1 b.1 ∧
            a.2 < b.2 := by
  have hkeys : SortKey.ofValue (.object [(.text "a", .int (-1))]) =
      .ok [⟨.text "a", .descending⟩] := by with_unfolding_all rfl
  have hlisted : ∀ d ∈ [[(.text "a", .int 1)], [(.text "a", .text "x")]],
      AreListed [⟨.text "a", .descending⟩] d := by
    intro d hd k hk
    rw [List.mem_singleton.mp hk]
    rcases List.mem_pair.mp hd with rfl | rfl
    . exact ⟨.int 1, by with_unfolding_all rfl, .int 1⟩
    . exact ⟨.text "x", by with_unfolding_all rfl, .text "x"⟩
  exact ⟨hkeys, (sorted_exactly hkeys hlisted).2 _ (by with_unfolding_all rfl)⟩

/--
Documents are not always sorted: those with a moment in a list that lies before the year 1 in
universal time clash, even with themselves.
-/
theorem early_moments_not_sorted
    : SortKey.ofValue (.object [(.text "a", .int 1)]) = .ok [⟨.text "a", .ascending⟩]
      ∧ AreListed [⟨.text "a", .ascending⟩] [(.text "a", .list [.date ⟨Moment.earliest, some 60⟩])]
      ∧ sorted [[(.text "a", .list [.date ⟨Moment.earliest, some 60⟩])],
          [(.text "a", .list [.date ⟨Moment.earliest, some 60⟩])]] (.object [(.text "a", .int 1)])
        = .error (.fault .outOfRange) := by
  refine ⟨by with_unfolding_all rfl, fun k hk => ?_, by with_unfolding_all rfl⟩
  rw [List.mem_singleton.mp hk]
  exact ⟨.list [.date ⟨Moment.earliest, some 60⟩], by with_unfolding_all rfl, .list _⟩

end Collection

end DocStore
