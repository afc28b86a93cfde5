import Mathlib.Data.List.Perm.Subperm
import DocStore.Proofs.Number.Quantity
import DocStore.Proofs.Query.Refusal
import DocStore.Proofs.Value.Alike
import DocStore.Proofs.Value.Equal

/-!
This module contains the proof that the equality of values that a document can hold is symmetric and
transitive. It is not reflexive, because what is no number is unequal to itself.
-/

namespace DocStore

namespace Value

def quantity? : Value → Option (ℚ ⊕ Bool)
  | .double x => x.quantity?
  | v => v.integer?.map fun n => .inl n

def isNumber : Value → Bool
  | .double _ => true
  | v => v.integer?.isSome

theorem isNumber_of_quantity? {v : Value} {q : ℚ ⊕ Bool} (h : v.quantity? = some q)
    : v.isNumber = true := by
  cases v with
  | double x => rfl
  | bool | int | long => rfl
  | _ => cases h

theorem equalsInteger_iff {v : Value} {n : Int}
    : v.equalsInteger n = true ↔ v.quantity? = some (.inl n) := by
  cases v with
  | double x => simp [equalsInteger, quantity?, Double.orderInt?_eq_iff]
  | _ => simp [equalsInteger, quantity?, integer?]

theorem double_equals_iff {x : Double} {w : Value}
    : (Value.double x).equals w = true ↔ ∃ q, x.quantity? = some q ∧ w.quantity? = some q := by
  cases w with
  | double y => simp [equals, quantity?, Double.order?_eq_iff]
  | _ => simp [equals, quantity?, integer?, Double.orderInt?_eq_iff]

theorem number_equals_iff {v w : Value} (h : v.isNumber = true)
    : v.equals w = true ↔ ∃ q, v.quantity? = some q ∧ w.quantity? = some q := by
  cases v with
  | double x => exact double_equals_iff
  | bool b => simp [equals, equalsInteger_iff, quantity?, integer?]
  | int n => simp [equals, equalsInteger_iff, quantity?, integer?]
  | long n => simp [equals, equalsInteger_iff, quantity?, integer?]
  | _ => cases h

theorem number_symm {v w : Value} (hv : v.isNumber = true) (h : v.equals w = true)
    : w.equals v = true := by
  obtain ⟨q, hvq, hwq⟩ := (number_equals_iff hv).mp h
  exact (number_equals_iff (isNumber_of_quantity? hwq)).mpr ⟨q, hwq, hvq⟩

theorem number_trans {u v w : Value} (hu : u.isNumber = true) (huv : u.equals v = true)
    (hvw : v.equals w = true)
    : u.equals w = true := by
  obtain ⟨q, huq, hvq⟩ := (number_equals_iff hu).mp huv
  obtain ⟨r, hvr, hwr⟩ := (number_equals_iff (isNumber_of_quantity? hvq)).mp hvw
  rw [hvq] at hvr
  cases hvr
  exact (number_equals_iff hu).mpr ⟨q, huq, hwr⟩

theorem equalLists_symm {xs ys : List Value}
    (hitems : ∀ x ∈ xs, ∀ y ∈ ys, x.equals y = true → y.equals x = true)
    (h : equalLists xs ys = true)
    : equalLists ys xs = true := by
  induction xs generalizing ys with
  | nil => cases ys <;> simp [equalLists] at h ⊢
  | cons x xs ih =>
    cases ys with
    | nil => simp [equalLists] at h
    | cons y ys =>
      rw [equalLists, Bool.and_eq_true] at h ⊢
      refine ⟨hitems x (List.mem_cons_self ..) y (List.mem_cons_self ..) h.1, ih ?_ h.2⟩
      exact fun x' hx y' hy => hitems x' (List.mem_cons_of_mem _ hx) y' (List.mem_cons_of_mem _ hy)

theorem equalLists_trans {xs ys zs : List Value}
    (hitems : ∀ x ∈ xs, ∀ y ∈ ys, ∀ z ∈ zs, x.equals y = true → y.equals z = true →
      x.equals z = true)
    (hxy : equalLists xs ys = true) (hyz : equalLists ys zs = true) : equalLists xs zs = true := by
  induction xs generalizing ys zs with
  | nil =>
    cases ys with
    | nil => exact hyz
    | cons => simp [equalLists] at hxy
  | cons x xs ih =>
    cases ys with
    | nil => simp [equalLists] at hxy
    | cons y ys =>
      cases zs with
      | nil => simp [equalLists] at hyz
      | cons z zs =>
        rw [equalLists, Bool.and_eq_true] at hxy hyz ⊢
        refine ⟨hitems x (List.mem_cons_self ..) y (List.mem_cons_self ..) z
          (List.mem_cons_self ..) hxy.1 hyz.1,
          ih ?_ hxy.2 hyz.2⟩
        exact fun x' hx y' hy z' hz =>
          hitems x' (List.mem_cons_of_mem _ hx) y' (List.mem_cons_of_mem _ hy) z'
            (List.mem_cons_of_mem _ hz)

theorem object_equals_iff {fs gs : Fields} (hfs : fs.IsKeyed)
    : (Value.object fs).equals (.object gs) = true
      ↔ fs.length = gs.length ∧ ∀ f ∈ fs, ∃ g ∈ gs, g.1 = f.1 ∧ f.2.equals g.2 = true := by
  rw [equals, allFields_eq_all, Bool.and_eq_true, decide_eq_true_eq, List.all_eq_true]
  refine and_congr_right fun _ => forall₂_congr fun f hf => ?_
  obtain ⟨s, hs⟩ := hfs.keys f hf
  rw [List.any_eq_true]
  refine exists_congr fun g => and_congr_right fun _ => ?_
  rw [Bool.and_eq_true, hs, text_equals]

theorem keys_subset_of_length {fs gs : Fields} (hfs : fs.IsKeyed) (hlength : fs.length = gs.length)
    (h : fs.map (·.1) ⊆ gs.map (·.1)) : gs.map (·.1) ⊆ fs.map (·.1) := by
  have hsub : (fs.map (·.1)).Subperm (gs.map (·.1)) := List.subperm_of_subset hfs.nodup h
  have hperm := hsub.perm_of_length_le (by rw [List.length_map, List.length_map, hlength])
  exact hperm.symm.subset

theorem object_symm {fs gs : Fields} (hfs : fs.IsKeyed) (hgs : gs.IsKeyed)
    (hvalues : ∀ f ∈ fs, ∀ g ∈ gs, f.2.equals g.2 = true → g.2.equals f.2 = true)
    (h : (Value.object fs).equals (.object gs) = true)
    : (Value.object gs).equals (.object fs) = true := by
  obtain ⟨hlength, hall⟩ := (object_equals_iff hfs).mp h
  refine (object_equals_iff hgs).mpr ⟨hlength.symm, ?_⟩
  have hsubset : fs.map (·.1) ⊆ gs.map (·.1) := by
    intro k hk
    rw [List.mem_map] at hk
    obtain ⟨f, hf, rfl⟩ := hk
    obtain ⟨g, hg, hkey, _⟩ := hall f hf
    exact hkey ▸ List.mem_map_of_mem hg
  intro g hg
  obtain ⟨f, hf, hkey⟩ :=
    List.mem_map.mp (keys_subset_of_length hfs hlength hsubset (List.mem_map_of_mem hg))
  obtain ⟨g', hg', hkey', hequals⟩ := hall f hf
  -- the fields that go with this one have its name, which only one field has
  have hsame : g' = g := List.inj_on_of_nodup_map hgs.nodup hg' hg (hkey'.trans hkey)
  rw [hsame] at hequals
  exact ⟨f, hf, hkey, hvalues f hf g hg hequals⟩

theorem object_trans {fs gs hs : Fields} (hfs : fs.IsKeyed) (hgs : gs.IsKeyed)
    (hvalues : ∀ f ∈ fs, ∀ g ∈ gs, ∀ h ∈ hs, f.2.equals g.2 = true → g.2.equals h.2 = true →
      f.2.equals h.2 = true)
    (hfg : (Value.object fs).equals (.object gs) = true)
    (hgh : (Value.object gs).equals (.object hs) = true)
    : (Value.object fs).equals (.object hs) = true := by
  obtain ⟨hlength, hall⟩ := (object_equals_iff hfs).mp hfg
  obtain ⟨hlength', hall'⟩ := (object_equals_iff hgs).mp hgh
  refine (object_equals_iff hfs).mpr ⟨hlength.trans hlength', ?_⟩
  intro f hf
  obtain ⟨g, hg, hkey, hequals⟩ := hall f hf
  obtain ⟨h, hh, hkey', hequals'⟩ := hall' g hg
  exact ⟨h, hh, hkey'.trans hkey, hvalues f hf g hg h hh hequals hequals'⟩

def isAtom : Value → Bool
  | .null => true
  | .text _ => true
  | .id _ => true
  | .bytes _ => true
  | .binary .. => true
  | .minKey => true
  | .maxKey => true
  | .timestamp .. => true
  | _ => false

theorem eq_of_isAtom {v w : Value} (hv : v.isAtom = true) (h : v.equals w = true) : w = v := by
  cases v with
  | null | text | id | bytes | binary | minKey | maxKey | timestamp => cases w <;> simp_all [equals]
  | _ => cases hv

theorem IsStored.equals_symm {v w : Value} (hv : v.IsStored) (hw : w.IsStored)
    (h : v.equals w = true)
    : w.equals v = true := by
  induction hv generalizing w with
  | bool | int | long | double => exact number_symm rfl h
  | list _ ih =>
    cases hw with
    | list hys =>
      rw [equals] at h ⊢
      exact equalLists_symm (fun x hx y hy => ih x hx (hys y hy)) h
    | _ => simp [equals] at h
  | object hfs _ ih =>
    cases hw with
    | object hgs hvalues => exact object_symm hfs hgs (fun f hf g hg => ih f hf (hvalues g hg)) h
    | _ => simp [equals] at h
  | date =>
    cases hw with
    | date => simp_all [equals, Moment.sameAs]
    | _ => simp [equals] at h
  | storedRegex =>
    cases hw with
    | storedRegex => simp_all [equals]
    | _ => simp [equals] at h
  | _ =>
    have heq := eq_of_isAtom rfl h
    rw [heq] at h ⊢
    exact h

theorem IsStored.equals_trans {u v w : Value} (hu : u.IsStored) (hv : v.IsStored) (hw : w.IsStored)
    (huv : u.equals v = true) (hvw : v.equals w = true) : u.equals w = true := by
  induction hu generalizing v w with
  | bool | int | long | double => exact number_trans rfl huv hvw
  | list _ ih =>
    cases hv with
    | list hys =>
      cases hw with
      | list hzs =>
        rw [equals] at huv hvw ⊢
        exact equalLists_trans (fun x hx y hy z hz => ih x hx (hys y hy) (hzs z hz)) huv hvw
      | _ => simp [equals] at hvw
    | _ => simp [equals] at huv
  | object hfs _ ih =>
    cases hv with
    | object hgs hgvalues =>
      cases hw with
      | object hhs hhvalues =>
        exact object_trans hfs hgs (fun f hf g hg h hh => ih f hf (hgvalues g hg) (hhvalues h hh))
          huv hvw
      | _ => simp [equals] at hvw
    | _ => simp [equals] at huv
  | date =>
    cases hv with
    | date =>
      cases hw with
      | date => simp_all [equals, Moment.sameAs]
      | _ => simp [equals] at hvw
    | _ => simp [equals] at huv
  | storedRegex =>
    cases hv with
    | storedRegex =>
      cases hw with
      | storedRegex => simp_all [equals]
      | _ => simp [equals] at hvw
    | _ => simp [equals] at huv
  | _ =>
    rw [eq_of_isAtom rfl huv] at hvw
    exact hvw

theorem equals_number_eq_false {u v : Value} (hu : u.IsStored) (hnumber : u.isNumber = false)
    (hv : v.isNumber = true) : u.equals v = false := by
  cases v with
  | bool | int | long | double =>
    cases hu with
    | bool | int | long | double => cases hnumber
    | _ => simp [equals]
  | _ => cases hv

theorem equals_congr_right {u v w : Value} (hu : u.IsStored) (hw : w.IsStored)
    (hhash : w.isHashable = true)
    (h : w.equals v = true) : u.equals v = u.equals w := by
  have hnumber : w.isNumber = true → u.equals v = u.equals w := by
    intro hn
    obtain ⟨q, hwq, hvq⟩ := (number_equals_iff hn).mp h
    cases hun : u.isNumber with
    | true => rw [Bool.eq_iff_iff, number_equals_iff hun, number_equals_iff hun, hvq, hwq]
    | false =>
      rw [equals_number_eq_false hu hun (isNumber_of_quantity? hvq),
        equals_number_eq_false hu hun hn]
  cases hw with
  | list | object | storedRegex => cases hhash
  | bool | int | long | double => exact hnumber rfl
  | date =>
    cases v with
    | date m =>
      cases hu with
      | date => simp_all [equals, Moment.sameAs]
      | _ => simp [equals, equalsInteger, integer?]
    | _ => simp [equals] at h
  | _ => rw [eq_of_isAtom rfl h]

def isBool : Value → Bool
  | .bool _ => true
  | _ => false

end Value

theorem valuesEqual_eq (v w : Value)
    : valuesEqual v w =
      (v.normalizeId.isBool == w.normalizeId.isBool && v.normalizeId.equals w.normalizeId) := by
  have hother : ∀ u : Value, (∀ b, u ≠ .bool b) → u.isBool = false := by
    intro u hu
    cases u with
    | bool b => exact absurd rfl (hu b)
    | _ => rfl
  unfold valuesEqual
  split
  next a b hv hw =>
    rw [hv, hw]
    cases a <;> cases b <;> simp [Value.isBool, Value.equals, Value.equalsInteger, Value.integer?]
  next a hv hw =>
    rw [hv, hother _ fun b hb => hw b hb]
    rfl
  next b hw hv =>
    rw [hw, hother _ hv]
    rfl
  next hv hw _ =>
    rw [hother _ hv, hother _ hw]
    rfl

theorem valuesEqual_reread {v : Value} (hv : v.IsRead)
    : valuesEqual v.reread v = (v.isWhole && v.equals v) := by
  have hbool : v.reread.normalizeId.isBool = v.normalizeId.isBool := by
    cases v <;> rfl
  have hequals : v.reread.normalizeId.equals v.normalizeId = v.reread.equals v := by
    cases v with
    | id i => simp [Value.reread, Value.normalizeId, Value.ofText, Value.equals]
    | _ => rfl
  rw [valuesEqual_eq, hbool, hequals, beq_self_eq_true, Bool.true_and, Value.reread_equals hv]

section

variable {u v w : Value} (hu : u.IsStored) (hv : v.IsStored) (hw : w.IsStored)

include hu hv

theorem valuesEqual_symm (h : valuesEqual u v = true) : valuesEqual v u = true := by
  rw [valuesEqual_eq, Bool.and_eq_true, beq_iff_eq] at h ⊢
  exact ⟨h.1.symm, hu.normalizeId.equals_symm hv.normalizeId h.2⟩

include hw

theorem valuesEqual_trans (huv : valuesEqual u v = true) (hvw : valuesEqual v w = true)
    : valuesEqual u w = true := by
  rw [valuesEqual_eq, Bool.and_eq_true, beq_iff_eq] at huv hvw ⊢
  exact ⟨huv.1.trans hvw.1, hu.normalizeId.equals_trans hv.normalizeId hw.normalizeId huv.2 hvw.2⟩

end

theorem valuesEqual_congr_right {u v w : Value} (hu : u.IsStored) (hw : w.IsStored)
    (hhash : w.isHashable = true)
    (h : valuesEqual w v = true) : valuesEqual u v = valuesEqual u w := by
  rw [valuesEqual_eq, Bool.and_eq_true, beq_iff_eq] at h
  rw [← Value.isHashable_normalizeId] at hhash
  rw [valuesEqual_eq, valuesEqual_eq, h.1,
    Value.equals_congr_right hu.normalizeId hw.normalizeId hhash h.2]

namespace Value

theorem equalLists_euclid {xs ys zs : List Value}
    (hitems : ∀ x ∈ xs, ∀ z ∈ zs, ∀ y, x.equals y = true → z.equals y = true → x.equals z = true)
    (hxy : equalLists xs ys = true) (hzy : equalLists zs ys = true) : equalLists xs zs = true := by
  induction ys generalizing xs zs with
  | nil =>
    cases xs with
    | nil => cases zs <;> simp [equalLists] at hzy ⊢
    | cons => simp [equalLists] at hxy
  | cons y ys ih =>
    cases xs with
    | nil => simp [equalLists] at hxy
    | cons x xs =>
      cases zs with
      | nil => simp [equalLists] at hzy
      | cons z zs =>
        rw [equalLists, Bool.and_eq_true] at hxy hzy ⊢
        refine ⟨hitems x (List.mem_cons_self ..) z (List.mem_cons_self ..) y hxy.1 hzy.1,
          ih ?_ hxy.2 hzy.2⟩
        exact fun x' hx z' hz => hitems x' (List.mem_cons_of_mem _ hx) z'
          (List.mem_cons_of_mem _ hz)

theorem object_euclid {fs gs hs : Fields} (hfs : fs.IsKeyed) (hhs : hs.IsKeyed)
    (hvalues : ∀ f ∈ fs, ∀ h ∈ hs, ∀ v, f.2.equals v = true → h.2.equals v = true →
      f.2.equals h.2 = true)
    (hfg : (Value.object fs).equals (.object gs) = true)
    (hhg : (Value.object hs).equals (.object gs) = true)
    : (Value.object fs).equals (.object hs) = true := by
  obtain ⟨hlength, hall⟩ := (object_equals_iff hfs).mp hfg
  obtain ⟨hlength', hall'⟩ := (object_equals_iff hhs).mp hhg
  have hsubset : ∀ {ks : Fields}, (∀ k ∈ ks, ∃ g ∈ gs, g.1 = k.1 ∧ k.2.equals g.2 = true) →
      ks.map (·.1) ⊆ gs.map (·.1) := by
    intro ks hks n hn
    obtain ⟨k, hk, rfl⟩ := List.mem_map.mp hn
    obtain ⟨g, hg, hkey, _⟩ := hks k hk
    exact hkey ▸ List.mem_map_of_mem hg
  -- the middle fields have as many names as the others, so that none stands twice
  have hnodup : (gs.map (·.1)).Nodup := by
    have hsub : (fs.map (·.1)).Subperm (gs.map (·.1)) :=
      List.subperm_of_subset hfs.nodup (hsubset hall)
    exact (hsub.perm_of_length_le (by rw [List.length_map, List.length_map, hlength])).nodup_iff.mp
      hfs.nodup
  refine (object_equals_iff hfs).mpr ⟨hlength.trans hlength'.symm, ?_⟩
  intro f hf
  obtain ⟨g, hg, hkey, hequals⟩ := hall f hf
  have hnames := keys_subset_of_length hhs hlength' (hsubset hall') (List.mem_map_of_mem hg)
  obtain ⟨h, hh, hkey'⟩ := List.mem_map.mp hnames
  obtain ⟨g', hg', hkey'', hequals'⟩ := hall' h hh
  have hsame : g' = g := List.inj_on_of_nodup_map hnodup hg' hg (hkey''.trans hkey')
  rw [hsame] at hequals'
  exact ⟨h, hh, hkey'.trans hkey, hvalues f hf h hh g.2 hequals hequals'⟩

theorem IsStored.equals_euclid {u v w : Value} (hu : u.IsStored) (hw : w.IsStored)
    (huv : u.equals v = true)
    (hwv : w.equals v = true) : u.equals w = true := by
  have hstored := hw
  induction hw generalizing u v with
  | list hzs ih =>
    cases v with
    | list ys =>
      cases hu with
      | list hxs =>
        rw [equals] at huv hwv ⊢
        exact equalLists_euclid (fun x hx z hz y hxy hzy => ih z hz (hxs x hx) hxy hzy (hzs z hz))
          huv hwv
      | _ => simp [equals, equalsInteger, integer?] at huv
    | _ => simp [equals] at hwv
  | object hhs hvalues ih =>
    cases v with
    | object gs =>
      cases hu with
      | object hfs hfvalues =>
        exact object_euclid hfs hhs
          (fun f hf h hh v hfv hhv => ih h hh (hfvalues f hf) hfv hhv (hvalues h hh)) huv hwv
      | _ => simp [equals, equalsInteger, integer?] at huv
    | _ => simp [equals] at hwv
  | storedRegex =>
    cases v with
    | storedRegex =>
      cases hu with
      | storedRegex => simp_all [equals]
      | _ => simp [equals, equalsInteger, integer?] at huv
    | _ => simp [equals] at hwv
  | _ =>
    rw [← equals_congr_right hu hstored rfl hwv]
    exact huv

end Value

theorem valuesEqual_euclid {u v w : Value} (hu : u.IsStored) (hw : w.IsStored)
    (huv : valuesEqual u v = true)
    (hwv : valuesEqual w v = true) : valuesEqual u w = true := by
  rw [valuesEqual_eq, Bool.and_eq_true, beq_iff_eq] at huv hwv ⊢
  exact ⟨huv.1.trans hwv.1.symm, hu.normalizeId.equals_euclid hw.normalizeId huv.2 hwv.2⟩

end DocStore
