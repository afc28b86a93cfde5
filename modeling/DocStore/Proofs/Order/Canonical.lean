import DocStore.Order.Canonical
import DocStore.Proofs.Order.StableSort
import DocStore.Proofs.Value.Stored

/-!
This module contains the values that are compared, and the proof that they have a canonical text,
unless an integer in them has more digits than are converted to text.
-/

namespace DocStore

open Work

theorem Fields.IsKeyed.perm {fs gs : Fields} (h : fs.IsKeyed) (hperm : gs.Perm fs) : gs.IsKeyed :=
  ⟨fun g hg => h.keys g (hperm.mem_iff.mp hg), (hperm.map _).nodup_iff.mpr h.nodup⟩

namespace Value

inductive IsSortable : Value → Prop where
  | null : IsSortable .null
  | bool (b) : IsSortable (.bool b)
  | int (n) : IsSortable (.int n)
  | long (n) : IsSortable (.long n)
  | double (x) : IsSortable (.double x)
  | text (s) : IsSortable (.text s)
  | date {wall} (h : Moment.inRange wall = true) : IsSortable (.date (.utc wall))
  | id (i) : IsSortable (.id i)
  | list {xs} (h : ∀ x ∈ xs, IsSortable x) : IsSortable (.list xs)
  | bytes (bs) : IsSortable (.bytes bs)
  | binary (t bs) : IsSortable (.binary t bs)
  | object {fs} (keyed : Fields.IsKeyed fs) (h : ∀ f ∈ fs, IsSortable f.2) : IsSortable (.object fs)
  | storedRegex (s bits) : IsSortable (.storedRegex s bits true)
  | minKey : IsSortable .minKey
  | maxKey : IsSortable .maxKey
  | timestamp {t i} (ht : t < 2 ^ 32) (hi : i < 2 ^ 32) : IsSortable (.timestamp t i)

theorem areLong_eq_any (xs : List Value) : areLong xs = xs.any isLong := by
  induction xs with
  | nil => rfl
  | cons x xs ih => rw [areLong, List.any_cons, ih]

theorem haveLong_eq_any {fs : List (Value × Value)} (hk : ∀ f ∈ fs, ∃ s, f.1 = .text s)
    : haveLong fs = fs.any (·.2.isLong) := by
  induction fs with
  | nil => rfl
  | cons f fs ih =>
    obtain ⟨k, v⟩ := f
    obtain ⟨s, hs⟩ := hk (k, v) (List.mem_cons_self ..)
    dsimp only at hs
    rw [hs, haveLong, List.any_cons, ih fun g hg => hk g (List.mem_cons_of_mem _ hg)]
    rfl

theorem isStored_iff {v : Value} : v.IsStored ↔ v.IsSortable ∧ v.isLong = false := by
  constructor
  . intro h
    refine ⟨?_, h.isLong⟩
    induction h with
    | list _ ih => exact .list ih
    | object keyed _ ih => exact .object keyed ih
    | _ => constructor <;> assumption
  . rintro ⟨h, hlong⟩
    induction h with
    | int _ => exact .int hlong
    | long _ => exact .long hlong
    | list _ ih =>
      rw [isLong, areLong_eq_any, List.any_eq_false] at hlong
      exact .list fun x hx => ih x hx (by simpa using hlong x hx)
    | object keyed _ ih =>
      rw [isLong, haveLong_eq_any keyed.keys, List.any_eq_false] at hlong
      exact .object keyed fun f hf => ih f hf (by simpa using hlong f hf)
    | _ => constructor <;> assumption

theorem sortFields?_perm {fs : Fields} (h : ∀ f ∈ fs, ∃ s, f.1 = .text s)
    : ∃ gs, sortFields? fs = some gs ∧ gs.Perm fs := by
  have hless : StableSort.Decides keyBefore fun f : Value × Value => ∃ s, f.1 = .text s := by
    rintro ⟨_, v⟩ ⟨_, w⟩ ⟨s, rfl⟩ ⟨t, rfl⟩
    exact ⟨_, rfl, trivial⟩
  obtain ⟨gs, hgs, hperm⟩ := StableSort.sort_answers hless h
  refine ⟨gs, ?_, hperm⟩
  unfold sortFields?
  rw [hgs]
  rfl

def IsSorted (v w : Value) : Prop := v.sortKeys? = some w ∧ w.IsSortable ∧ w.isLong = v.isLong

theorem sortAllKeys?_isSorted {xs : List Value} (h : ∀ x ∈ xs, ∃ y, IsSorted x y)
    : ∃ ys, sortAllKeys? xs = some ys ∧ (∀ y ∈ ys, y.IsSortable) ∧ areLong ys = areLong xs := by
  induction xs with
  | nil => exact ⟨[], rfl, by simp, rfl⟩
  | cons x xs ih =>
    obtain ⟨y, hy, hsortable, hlong⟩ := h x (List.mem_cons_self ..)
    obtain ⟨ys, hys, hall, hlongs⟩ := ih fun z hz => h z (List.mem_cons_of_mem _ hz)
    refine ⟨y :: ys, ?_, ?_, ?_⟩
    . rw [sortAllKeys?, hy, hys]
      rfl
    . exact List.forall_mem_cons.mpr ⟨hsortable, hall⟩
    . rw [areLong, areLong, hlong, hlongs]

theorem sortKeysIn?_isSorted {fs : Fields} (h : ∀ f ∈ fs, ∃ w, IsSorted f.2 w)
    : ∃ gs, sortKeysIn? fs = some gs ∧ gs.map (·.1) = fs.map (·.1) ∧ (∀ g ∈ gs, g.2.IsSortable)
        ∧ haveLong gs = haveLong fs := by
  induction fs with
  | nil => exact ⟨[], rfl, rfl, by simp, rfl⟩
  | cons f fs ih =>
    obtain ⟨k, v⟩ := f
    obtain ⟨w, hw, hsortable, hlong⟩ := h (k, v) (List.mem_cons_self ..)
    obtain ⟨gs, hgs, hkeys, hall, hlongs⟩ := ih fun g hg => h g (List.mem_cons_of_mem _ hg)
    refine ⟨(k, w) :: gs, ?_, ?_, ?_, ?_⟩
    . dsimp only at hw
      rw [sortKeysIn?, hw, hgs]
      rfl
    . rw [List.map_cons, List.map_cons, hkeys]
    . exact List.forall_mem_cons.mpr ⟨hsortable, hall⟩
    . rw [haveLong, haveLong, hlong, hlongs]

theorem IsSortable.sortKeys {v : Value} (h : v.IsSortable) : ∃ w, IsSorted v w := by
  induction h with
  | list _ ih =>
    obtain ⟨ys, hys, hall, hlong⟩ := sortAllKeys?_isSorted ih
    refine ⟨.list ys, ?_, .list hall, hlong⟩
    rw [sortKeys?, hys]
    rfl
  | @object fs keyed _ ih =>
    obtain ⟨gs, hgs, hkeys, hall, hlong⟩ := sortKeysIn?_isSorted ih
    -- sorting the keys further inside leaves the names of the fields, by which they can be sorted
    -- in turn
    have hkeyed : Fields.IsKeyed gs := keyed.congr hkeys
    obtain ⟨es, hes, hperm⟩ := sortFields?_perm hkeyed.keys
    refine ⟨.object es, ?_, .object (hkeyed.perm hperm) fun e he =>
      hall e (hperm.mem_iff.mp he), ?_⟩
    . rw [sortKeys?, hgs]
      change (do return Value.object (← sortFields? gs) : Option Value) = _
      rw [hes]
      rfl
    . rw [isLong, isLong, ← hlong, haveLong_eq_any (hkeyed.perm hperm).keys,
        haveLong_eq_any hkeyed.keys]
      exact hperm.any_eq
  | _ => exact ⟨_, rfl, by constructor <;> assumption, rfl⟩

end Value

namespace Extended

theorem encodeTrees_error (layout : Layout) {xs : List Value}
    (h : ∃ x ∈ xs, ∃ err, encodeTree layout x = .error err)
    : ∃ err, encodeTrees layout xs = .error err := by
  induction xs with
  | nil => simp at h
  | cons x xs ih =>
    rw [encodeTrees]
    cases hx : encodeTree layout x with
    | error err => exact ⟨err, rfl⟩
    | ok j =>
      obtain ⟨y, hy, err, herr⟩ := h
      have hmem : y ∈ xs := by
        refine (List.mem_cons.mp hy).resolve_left ?_
        rintro rfl
        rw [herr] at hx
        cases hx
      obtain ⟨err', herr'⟩ := ih ⟨y, hmem, err, herr⟩
      exact ⟨err', by rw [herr']; rfl⟩

theorem encodeFields_error (layout : Layout) {fs : Fields} (hk : ∀ f ∈ fs, ∃ s, f.1 = .text s)
    (h : ∃ f ∈ fs, ∃ err, encodeTree layout f.2 = .error err)
    : ∃ err, encodeFields layout fs = .error err := by
  induction fs with
  | nil => simp at h
  | cons f fs ih =>
    obtain ⟨k, v⟩ := f
    obtain ⟨s, rfl⟩ : ∃ s, k = .text s := hk (k, v) (List.mem_cons_self ..)
    rw [encodeFields]
    cases hv : encodeTree layout v with
    | error err => exact ⟨err, rfl⟩
    | ok j =>
      obtain ⟨g, hg, err, herr⟩ := h
      have hmem : g ∈ fs := by
        refine (List.mem_cons.mp hg).resolve_left ?_
        rintro rfl
        rw [herr] at hv
        cases hv
      obtain ⟨err', herr'⟩ := ih (fun g hg => hk g (List.mem_cons_of_mem _ hg)) ⟨g, hmem, err, herr⟩
      exact ⟨err', by rw [herr']; rfl⟩

theorem encodeTree_error (layout : Layout) {v : Value} (h : v.IsSortable) (hlong : v.isLong = true)
    : ∃ err, encodeTree layout v = .error err := by
  induction h with
  | int n =>
    rw [Value.isLong] at hlong
    exact ⟨.longInteger, by rw [encodeTree, encodeInteger, hlong]; rfl⟩
  | long n =>
    rw [Value.isLong] at hlong
    exact ⟨.longInteger, by rw [encodeTree, encodeInteger, hlong]; rfl⟩
  | list _ ih =>
    rw [Value.isLong, Value.areLong_eq_any, List.any_eq_true] at hlong
    obtain ⟨x, hx, hlong⟩ := hlong
    obtain ⟨err, herr⟩ := encodeTrees_error layout ⟨x, hx, ih x hx hlong⟩
    exact ⟨err, by rw [encodeTree, herr]; rfl⟩
  | object keyed _ ih =>
    rw [Value.isLong, Value.haveLong_eq_any keyed.keys, List.any_eq_true] at hlong
    obtain ⟨f, hf, hlong⟩ := hlong
    obtain ⟨err, herr⟩ := encodeFields_error layout keyed.keys ⟨f, hf, ih f hf hlong⟩
    exact ⟨err, by rw [encodeTree, herr]; rfl⟩
  | _ => cases hlong

end Extended

namespace Value

theorem IsSortable.canonical {v : Value} (h : v.IsSortable)
    : (v.isLong = false → ∃ s, v.canonical = .ok s) ∧
      (v.isLong = true → ∃ err, v.canonical = .error err) := by
  obtain ⟨w, hw, hsortable, hsame⟩ := h.sortKeys
  unfold Value.canonical
  constructor
  . intro hlong
    have hearly := Extended.hasEarlyDate_eq_false (isStored_iff.mpr ⟨h, hlong⟩)
    obtain ⟨j, hj⟩ :=
      Extended.encodeTree_isOk .sortedLine (isStored_iff.mpr ⟨hsortable, hsame.trans hlong⟩)
    rw [hearly, hw]
    dsimp only
    rw [hj]
    exact ⟨_, rfl⟩
  . intro hlong
    obtain ⟨err, herr⟩ := Extended.encodeTree_error .sortedLine hsortable (hsame.trans hlong)
    split
    . exact ⟨_, rfl⟩
    . rw [hw]
      dsimp only
      rw [herr]
      unfold canonical.fallback written?
      rw [hlong]
      exact ⟨_, rfl⟩

end Value

end DocStore
