import Mathlib.Data.List.Nodup
import DocStore.Engine.File
import DocStore.Proofs.Value.Fields

/-!
This module contains the values that a document of a collection can hold: those that typed text
stands for. They can be written again, and their integers can be converted to text.
-/

namespace DocStore

namespace Fields

structure IsKeyed (fs : Fields) : Prop where
  keys : ∀ f ∈ fs, ∃ s, f.1 = .text s
  nodup : (fs.map (·.1)).Nodup

theorem IsKeyed.nil : IsKeyed [] := ⟨by simp, by simp⟩

theorem IsKeyed.congr {fs gs : Fields} (h : fs.IsKeyed) (hkeys : gs.map (·.1) = fs.map (·.1))
    : gs.IsKeyed := by
  constructor
  . intro g hg
    have hmem : g.1 ∈ fs.map (·.1) := hkeys ▸ List.mem_map_of_mem hg
    obtain ⟨f, hf, hfg⟩ := List.mem_map.mp hmem
    rw [← hfg]
    exact h.keys f hf
  . rw [hkeys]
    exact h.nodup

theorem map_fst_insert_of_contains {fs : Fields} {k : Value} (v : Value) (h : fs.contains k = true)
    : (insert fs k v).map (·.1) = fs.map (·.1) := by
  unfold insert
  rw [if_pos h, List.map_map]
  apply List.map_congr_left
  intro f _
  dsimp only [Function.comp_apply]
  split <;> rfl

theorem IsKeyed.insert {fs : Fields} (h : fs.IsKeyed) (s : String) (v : Value)
    : (fs.insert (.text s) v).IsKeyed := by
  by_cases hc : fs.contains (.text s) = true
  . exact h.congr (map_fst_insert_of_contains v hc)
  . have hins : fs.insert (.text s) v = fs ++ [(.text s, v)] := by
      unfold Fields.insert
      rw [if_neg hc]
    rw [hins]
    constructor
    . intro f hf
      rw [List.mem_append, List.mem_singleton] at hf
      cases hf with
      | inl hf => exact h.keys f hf
      | inr hf => exact ⟨s, by rw [hf]⟩
    . rw [List.map_append, List.nodup_append]
      refine ⟨h.nodup, by simp, ?_⟩
      intro a ha b hb hab
      rw [List.mem_map] at ha
      obtain ⟨f, hf, hfa⟩ := ha
      apply hc
      rw [contains_text]
      refine ⟨f, hf, ?_⟩
      simp only [List.map_cons, List.map_nil, List.mem_singleton] at hb
      rw [hfa, hab, hb]

theorem IsKeyed.merge {gs : Fields} (hg : ∀ g ∈ gs, ∃ s, g.1 = .text s) {fs : Fields}
    (h : fs.IsKeyed)
    : (fs.merge gs).IsKeyed := by
  induction gs generalizing fs with
  | nil => exact h
  | cons g gs ih =>
    rw [merge_cons]
    apply ih
    . intro g' hg'
      exact hg g' (List.mem_cons_of_mem _ hg')
    . obtain ⟨s, hs⟩ := hg g (List.mem_cons_self ..)
      rw [hs]
      exact h.insert s g.2

theorem merge_eq_append {fs gs : Fields} (h : IsKeyed (fs ++ gs)) : fs.merge gs = fs ++ gs := by
  induction gs generalizing fs with
  | nil =>
    rw [List.append_nil]
    rfl
  | cons g gs ih =>
    obtain ⟨s, hs⟩ := h.keys g (by simp)
    have hassoc : fs ++ g :: gs = (fs ++ [g]) ++ gs := by simp
    have hc : ¬ fs.contains g.1 = true := by
      intro hc
      rw [hs, contains_text] at hc
      obtain ⟨f, hf, hfs⟩ := hc
      have hnodup := h.nodup
      rw [List.map_append, List.nodup_append] at hnodup
      exact hnodup.2.2 f.1 (List.mem_map_of_mem hf) g.1 (by simp) (hfs.trans hs.symm)
    have hins : fs.insert g.1 g.2 = fs ++ [g] := by
      unfold Fields.insert
      rw [if_neg hc]
    rw [merge_cons, hins, hassoc]
    apply ih
    rw [← hassoc]
    exact h

theorem IsKeyed.ofList_eq {es : Fields} (h : es.IsKeyed) : ofList es = es :=
  @merge_eq_append [] es h

theorem IsKeyed.get?_of_mem {fs : Fields} (h : fs.IsKeyed) {f : Value × Value} (hf : f ∈ fs)
    {s : String}
    (hs : f.1 = .text s) : fs.get? (.text s) = some f.2 := by
  obtain ⟨v, hv⟩ := exists_get?_iff.mpr (List.mem_map.mpr ⟨f, hf, hs⟩)
  obtain ⟨g, hg, hkey, rfl⟩ := get?_mem hv
  rw [Value.equals_text] at hkey
  rw [hv, List.inj_on_of_nodup_map h.nodup hg hf (hkey.trans hs.symm)]

theorem map_fst_merge_of_subset {fs gs : Fields} (hgs : gs.IsKeyed)
    (h : gs.map (·.1) ⊆ fs.map (·.1))
    : (fs.merge gs).map (·.1) = fs.map (·.1) := by
  induction gs generalizing fs with
  | nil => rfl
  | cons g gs ih =>
    obtain ⟨s, hs⟩ := hgs.keys g (List.mem_cons_self ..)
    have hnodup := hgs.nodup
    rw [List.map_cons, List.nodup_cons] at hnodup
    have hrest : IsKeyed gs := ⟨fun f hf => hgs.keys f (List.mem_cons_of_mem _ hf), hnodup.2⟩
    rw [List.map_cons, List.cons_subset] at h
    have hcontains : fs.contains g.1 = true := by
      rw [hs, contains_text]
      obtain ⟨f, hf, hkey⟩ := List.mem_map.mp h.1
      exact ⟨f, hf, hkey.trans hs⟩
    have hinsert := map_fst_insert_of_contains g.2 hcontains
    rw [merge_cons, ih hrest, hinsert]
    rw [hinsert]
    exact h.2

theorem mem_insert {fs : Fields} {k v : Value} {f : Value × Value} (h : f ∈ fs.insert k v)
    : f.2 = v ∨ f ∈ fs := by
  unfold insert at h
  split at h
  . rw [List.mem_map] at h
    obtain ⟨g, hg, hgf⟩ := h
    split at hgf
    . left
      rw [← hgf]
    . right
      rw [← hgf]
      exact hg
  . rw [List.mem_append, List.mem_singleton] at h
    cases h with
    | inl h => exact .inr h
    | inr h =>
      left
      rw [h]

theorem mem_merge {gs fs : Fields} {f : Value × Value} (h : f ∈ fs.merge gs)
    : (∃ g ∈ gs, f.2 = g.2) ∨ f ∈ fs := by
  induction gs generalizing fs with
  | nil => exact .inr h
  | cons g gs ih =>
    rw [merge_cons] at h
    cases ih h with
    | inl h =>
      obtain ⟨g', hg', he⟩ := h
      exact .inl ⟨g', List.mem_cons_of_mem _ hg', he⟩
    | inr h =>
      cases mem_insert h with
      | inl h => exact .inl ⟨g, List.mem_cons_self .., h⟩
      | inr h => exact .inr h

end Fields

namespace Value

inductive IsStored : Value → Prop where
  | null : IsStored .null
  | bool (b) : IsStored (.bool b)
  | int {n} (h : Numeral.isLong n = false) : IsStored (.int n)
  | long {n} (h : Numeral.isLong n = false) : IsStored (.long n)
  | double (x) : IsStored (.double x)
  | text (s) : IsStored (.text s)
  | date {wall} (h : Moment.inRange wall = true) : IsStored (.date (.utc wall))
  | id (i) : IsStored (.id i)
  | list {xs} (h : ∀ x ∈ xs, IsStored x) : IsStored (.list xs)
  | bytes (bs) : IsStored (.bytes bs)
  | binary (t bs) : IsStored (.binary t bs)
  | object {fs} (keyed : Fields.IsKeyed fs) (h : ∀ f ∈ fs, IsStored f.2) : IsStored (.object fs)
  | storedRegex (s bits) : IsStored (.storedRegex s bits true)
  | minKey : IsStored .minKey
  | maxKey : IsStored .maxKey
  | timestamp {t i} (ht : t < 2 ^ 32) (hi : i < 2 ^ 32) : IsStored (.timestamp t i)

end Value

namespace Fields

structure IsStored (fs : Fields) : Prop where
  keyed : fs.IsKeyed
  values : ∀ f ∈ fs, f.2.IsStored

theorem isStored_object {fs : Fields} : (Value.object fs).IsStored ↔ fs.IsStored := by
  constructor
  . intro h
    cases h with
    | object keyed h => exact ⟨keyed, h⟩
  . intro h
    exact .object h.keyed h.values

theorem IsStored.get {fs : Fields} (h : fs.IsStored) {k v : Value} (hv : fs.get? k = some v)
    : v.IsStored := by
  obtain ⟨f, hf, _, rfl⟩ := get?_mem hv
  exact h.values f hf

theorem IsStored.getD {fs : Fields} (h : fs.IsStored) (s : String) : (fs.getD s).IsStored := by
  unfold Fields.getD
  cases hv : fs.get? (.text s) with
  | none => exact .null
  | some v => exact h.get hv

theorem IsStored.insert {fs : Fields} (h : fs.IsStored) (s : String) {v : Value} (hv : v.IsStored)
    : (fs.insert (.text s) v).IsStored := by
  refine ⟨h.keyed.insert s v, ?_⟩
  intro f hf
  cases mem_insert hf with
  | inl hf =>
    rw [hf]
    exact hv
  | inr hf => exact h.values f hf

theorem IsStored.merge {fs gs : Fields} (h : fs.IsStored) (hk : ∀ g ∈ gs, ∃ s, g.1 = .text s)
    (hv : ∀ g ∈ gs, g.2.IsStored) : (fs.merge gs).IsStored := by
  refine ⟨h.keyed.merge hk, ?_⟩
  intro f hf
  cases mem_merge hf with
  | inl hf =>
    obtain ⟨g, hg, he⟩ := hf
    rw [he]
    exact hv g hg
  | inr hf => exact h.values f hf

theorem IsStored.filter {fs : Fields} (h : fs.IsStored) (p : Value × Value → Bool)
    : IsStored (fs.filter p) := by
  refine ⟨⟨?_, ?_⟩, ?_⟩
  . intro f hf
    exact h.keyed.keys f ((List.mem_filter.mp hf).1)
  . exact h.keyed.nodup.sublist (List.filter_sublist.map _)
  . intro f hf
    exact h.values f ((List.mem_filter.mp hf).1)

end Fields

namespace Value

theorem areLong_eq_false {xs : List Value} (h : ∀ x ∈ xs, x.isLong = false)
    : areLong xs = false := by
  induction xs with
  | nil => rfl
  | cons x xs ih =>
    simp only [areLong, Bool.or_eq_false_iff]
    refine ⟨h x (List.mem_cons_self ..), ih ?_⟩
    intro y hy
    exact h y (List.mem_cons_of_mem _ hy)

theorem haveLong_eq_false {fs : List (Value × Value)} (hk : ∀ f ∈ fs, ∃ s, f.1 = .text s)
    (h : ∀ f ∈ fs, f.2.isLong = false) : haveLong fs = false := by
  induction fs with
  | nil => rfl
  | cons f fs ih =>
    obtain ⟨k, v⟩ := f
    obtain ⟨s, rfl⟩ : ∃ s, k = .text s := hk (k, v) (List.mem_cons_self ..)
    simp only [haveLong, Bool.or_eq_false_iff]
    refine ⟨⟨rfl, h (.text s, v) (List.mem_cons_self ..)⟩, ih ?_ ?_⟩
    . intro g hg
      exact hk g (List.mem_cons_of_mem _ hg)
    . intro g hg
      exact h g (List.mem_cons_of_mem _ hg)

theorem IsStored.isLong {v : Value} (h : v.IsStored) : v.isLong = false := by
  induction h with
  | int h => exact h
  | long h => exact h
  | list _ ih => exact areLong_eq_false ih
  | object keyed _ ih => exact haveLong_eq_false keyed.keys ih
  | _ => rfl

theorem IsStored.plain? {v : Value} (h : v.IsStored) : v.plain? = some v.plain := by
  unfold Value.plain?
  rw [h.isLong]
  rfl

end Value

namespace Extended

theorem haveEarlyDate_eq_false {xs : List Value} (h : ∀ x ∈ xs, hasEarlyDate x = false)
    : haveEarlyDate xs = false := by
  induction xs with
  | nil => rfl
  | cons x xs ih =>
    simp only [haveEarlyDate, Bool.or_eq_false_iff]
    refine ⟨h x (List.mem_cons_self ..), ih ?_⟩
    intro y hy
    exact h y (List.mem_cons_of_mem _ hy)

theorem fieldsHaveEarlyDate_eq_false {fs : List (Value × Value)}
    (h : ∀ f ∈ fs, hasEarlyDate f.2 = false)
    : fieldsHaveEarlyDate fs = false := by
  induction fs with
  | nil => rfl
  | cons f fs ih =>
    simp only [fieldsHaveEarlyDate, Bool.or_eq_false_iff]
    refine ⟨h f (List.mem_cons_self ..), ih ?_⟩
    intro g hg
    exact h g (List.mem_cons_of_mem _ hg)

theorem instant_utc (wall : Int) : (Moment.utc wall).instant = wall := by
  simp [Moment.utc, Moment.instant]

theorem hasEarlyDate_eq_false {v : Value} (h : v.IsStored) : hasEarlyDate v = false := by
  induction h with
  | date h =>
    simp only [Moment.inRange, decide_eq_true_eq] at h
    simp only [hasEarlyDate, isTooEarly, instant_utc, Bool.and_eq_false_iff,
      decide_eq_false_iff_not]
    right
    omega
  | list _ ih => exact haveEarlyDate_eq_false ih
  | object _ _ ih => exact fieldsHaveEarlyDate_eq_false ih
  | _ => rfl

theorem encodeTrees_isOk {layout : Layout} {xs : List Value}
    (h : ∀ x ∈ xs, ∃ j, encodeTree layout x = .ok j)
    : ∃ js, encodeTrees layout xs = .ok js := by
  induction xs with
  | nil => exact ⟨[], rfl⟩
  | cons x xs ih =>
    obtain ⟨j, hj⟩ := h x (List.mem_cons_self ..)
    obtain ⟨js, hjs⟩ := ih fun y hy => h y (List.mem_cons_of_mem _ hy)
    refine ⟨j :: js, ?_⟩
    rw [encodeTrees, hj, hjs]
    rfl

theorem encodeFields_isOk {layout : Layout} {fs : List (Value × Value)}
    (hk : ∀ f ∈ fs, ∃ s, f.1 = .text s)
    (h : ∀ f ∈ fs, ∃ j, encodeTree layout f.2 = .ok j) : ∃ ms, encodeFields layout fs = .ok ms := by
  induction fs with
  | nil => exact ⟨[], rfl⟩
  | cons f fs ih =>
    obtain ⟨k, v⟩ := f
    obtain ⟨s, rfl⟩ : ∃ s, k = .text s := hk (k, v) (List.mem_cons_self ..)
    obtain ⟨j, hj⟩ := h (.text s, v) (List.mem_cons_self ..)
    obtain ⟨ms, hms⟩ := ih (fun g hg => hk g (List.mem_cons_of_mem _ hg))
      (fun g hg => h g (List.mem_cons_of_mem _ hg))
    refine ⟨(s.toList, j) :: ms, ?_⟩
    rw [encodeFields, hj, hms]
    rfl

theorem encodeTree_isOk (layout : Layout) {v : Value} (h : v.IsStored)
    : ∃ j, encodeTree layout v = .ok j := by
  induction h with
  | int h => exact ⟨_, by rw [encodeTree, encodeInteger, h]; rfl⟩
  | long h => exact ⟨_, by rw [encodeTree, encodeInteger, h]; rfl⟩
  | list _ ih =>
    obtain ⟨js, hjs⟩ := encodeTrees_isOk ih
    exact ⟨_, by rw [encodeTree, hjs]; rfl⟩
  | object keyed _ ih =>
    obtain ⟨ms, hms⟩ := encodeFields_isOk keyed.keys ih
    exact ⟨_, by rw [encodeTree, hms]; rfl⟩
  | _ => exact ⟨_, by rw [encodeTree]⟩

theorem encode_eq_encodeTree (layout : Layout) {v : Value} (h : v.IsStored)
    : encode layout v = encodeTree layout v := by
  unfold encode
  rw [hasEarlyDate_eq_false h]
  rfl

end Extended

theorem Collection.textOf_isOk {docs : List Fields} (h : ∀ d ∈ docs, d.IsStored)
    : ∃ s, Collection.textOf docs = .ok s := by
  have hlist : (Value.list (docs.map .object)).IsStored := by
    apply Value.IsStored.list
    intro x hx
    rw [List.mem_map] at hx
    obtain ⟨d, hd, rfl⟩ := hx
    exact Fields.isStored_object.mpr (h d hd)
  obtain ⟨j, hj⟩ := Extended.encodeTree_isOk .indented hlist
  refine ⟨j.write .indented, ?_⟩
  unfold Collection.textOf
  rw [Extended.encode_eq_encodeTree _ hlist, hj]
  rfl

end DocStore
