import DocStore.Document

/-!
This module contains the laws of fields: what a look-up finds after fields were put, merged and
dropped.
-/

namespace DocStore

namespace Value

theorem equals_text {v : Value} {s : String} : v.equals (.text s) = true ↔ v = .text s := by
  cases v <;> simp [equals, equalsInteger, integer?]

theorem text_equals {v : Value} {s : String} : (Value.text s).equals v = true ↔ v = .text s := by
  cases v <;> simp [equals, eq_comm]

end Value

namespace Fields

open Value

theorem get?_cons (f : Value × Value) (fs : Fields) (k : Value)
    : get? (f :: fs) k = if f.1.equals k then some f.2 else get? fs k := by
  unfold get?
  rw [List.find?_cons]
  cases f.1.equals k <;> rfl

theorem get?_append (fs gs : Fields) (k : Value)
    : get? (fs ++ gs) k = (get? fs k).or (get? gs k) := by
  induction fs with
  | nil => rfl
  | cons f fs ih =>
    rw [List.cons_append, get?_cons, get?_cons, ih]
    split <;> rfl

theorem get?_eq_none {fs : Fields} {s : String}
    : get? fs (.text s) = none ↔ ∀ f ∈ fs, f.1 ≠ .text s := by
  unfold get?
  simp [List.find?_eq_none, equals_text]

theorem get?_mem {fs : Fields} {k v : Value} (h : get? fs k = some v)
    : ∃ f ∈ fs, f.1.equals k ∧ f.2 = v := by
  unfold get? at h
  rw [Option.map_eq_some_iff] at h
  obtain ⟨f, hf, rfl⟩ := h
  exact ⟨f, List.mem_of_find?_eq_some hf, by simpa using List.find?_some hf, rfl⟩

theorem get?_filter {fs : Fields} {s : String} {p : Value × Value → Bool}
    (h : ∀ f ∈ fs, f.1 = .text s → p f = true)
    : get? (fs.filter p) (.text s) = get? fs (.text s) := by
  induction fs with
  | nil => rfl
  | cons f fs ih =>
    have ih := ih fun g hg => h g (List.mem_cons_of_mem _ hg)
    rw [List.filter_cons, get?_cons]
    cases hp : p f with
    | true => rw [if_pos rfl, get?_cons, ih]
    | false =>
      rw [if_neg Bool.false_ne_true, if_neg, ih]
      intro hs
      rw [h f (List.mem_cons_self ..) (equals_text.mp hs)] at hp
      cases hp

theorem get?_erase_ne (fs : Fields) {name other : String} (h : other ≠ name)
    : get? (erase fs (.text other)) (.text name) = get? fs (.text name) := by
  apply get?_filter
  intro f _ hf
  rw [hf, Bool.not_eq_true', Bool.eq_false_iff, Ne, equals_text]
  intro heq
  exact h (Value.text.inj heq).symm

theorem getD_erase_ne (fs : Fields) {name other : String} (h : other ≠ name)
    : getD (erase fs (.text other)) name = getD fs name := by
  unfold getD
  rw [get?_erase_ne fs h]

theorem contains_text {fs : Fields} {s : String}
    : contains fs (.text s) = true ↔ ∃ f ∈ fs, f.1 = .text s := by
  simp [contains, List.any_eq_true, equals_text]

theorem get?_map_ne {fs : Fields} {k v : Value} {s : String} (h : k ≠ .text s)
    : get? (fs.map fun f => if f.1.equals k then (f.1, v) else f) (.text s) =
      get? fs (.text s) := by
  induction fs with
  | nil => rfl
  | cons f fs ih =>
    rw [List.map_cons, get?_cons, get?_cons, ih]
    by_cases hk : f.1.equals k = true
    . by_cases hs : f.1.equals (.text s) = true
      . rw [equals_text] at hs
        rw [hs, text_equals] at hk
        exact absurd hk h
      . simp [hk, hs]
    . simp [hk]

theorem get?_insert_ne (fs : Fields) {k v : Value} {s : String} (h : k ≠ .text s)
    : get? (insert fs k v) (.text s) = get? fs (.text s) := by
  unfold insert
  split
  . exact get?_map_ne h
  . rw [get?_append, get?_cons]
    have : ¬ k.equals (.text s) = true := by
      rw [equals_text]
      exact h
    rw [if_neg this]
    simp [get?]

theorem get?_insert_self (fs : Fields) (s : String) (v : Value)
    : get? (insert fs (.text s) v) (.text s) = some v := by
  unfold insert
  split
  next hc =>
    induction fs with
    | nil => simp [contains] at hc
    | cons f fs ih =>
      rw [List.map_cons, get?_cons]
      by_cases hs : f.1.equals (.text s) = true
      . simp [hs]
      . rw [if_neg (by simp [hs])]
        apply ih
        simpa [contains, hs] using hc
  next hc =>
    rw [get?_append, get?_cons]
    have : get? fs (.text s) = none := by
      rw [get?_eq_none]
      intro f hf he
      exact hc (contains_text.mpr ⟨f, hf, he⟩)
    rw [this, if_pos (equals_text.mpr rfl)]
    rfl

theorem merge_cons (fs : Fields) (g : Value × Value) (gs : Fields)
    : merge fs (g :: gs) = merge (insert fs g.1 g.2) gs := rfl

theorem get?_merge_of_notMem {gs : Fields} {s : String} (h : ∀ g ∈ gs, g.1 ≠ .text s) (fs : Fields)
    : get? (merge fs gs) (.text s) = get? fs (.text s) := by
  induction gs generalizing fs with
  | nil => rfl
  | cons g gs ih =>
    rw [merge_cons, ih]
    . apply get?_insert_ne
      exact h g (List.mem_cons_self ..)
    . intro g' hg'
      exact h g' (List.mem_cons_of_mem _ hg')

theorem get?_merge_cases {fs gs : Fields} {s : String} {v : Value}
    (h : get? (merge fs gs) (.text s) = some v)
    : (∃ g ∈ gs, g.1 = .text s ∧ g.2 = v) ∨ get? fs (.text s) = some v := by
  induction gs generalizing fs with
  | nil => exact .inr h
  | cons g gs ih =>
    rw [merge_cons] at h
    rcases ih h with ⟨g', hg', hfound⟩ | h
    . exact .inl ⟨g', List.mem_cons_of_mem _ hg', hfound⟩
    . by_cases hkey : g.1 = .text s
      . rw [hkey, get?_insert_self] at h
        cases h
        exact .inl ⟨g, List.mem_cons_self .., hkey, rfl⟩
      . rw [get?_insert_ne fs hkey] at h
        exact .inr h

theorem exists_get?_iff {fs : Fields} {s : String}
    : (∃ v, fs.get? (.text s) = some v) ↔ .text s ∈ fs.map (·.1) := by
  rw [← Option.ne_none_iff_exists', ne_eq, get?_eq_none, List.mem_map]
  simp

theorem get?_of_getD_ne {fs : Fields} {s : String} (h : Fields.getD fs s ≠ .null)
    : fs.get? (.text s) = some (Fields.getD fs s) := by
  unfold Fields.getD at h ⊢
  cases hget : fs.get? (.text s) with
  | some v => rfl
  | none =>
    rw [hget] at h
    exact absurd rfl h

theorem mem_keys_insert {fs : Fields} {k v k' : Value} (h : k' ∈ (insert fs k v).map (·.1))
    : k' = k ∨ k' ∈ fs.map (·.1) := by
  unfold insert at h
  split at h
  . right
    rw [List.map_map, List.mem_map] at h
    obtain ⟨f, hf, hk⟩ := h
    rw [List.mem_map]
    refine ⟨f, hf, ?_⟩
    rw [← hk, Function.comp_apply]
    split <;> rfl
  . rw [List.map_append, List.mem_append] at h
    cases h with
    | inl h => exact .inr h
    | inr h =>
      left
      simpa using h

theorem mem_keys_merge {fs gs : Fields} {k : Value} (h : k ∈ (merge fs gs).map (·.1))
    : k ∈ fs.map (·.1) ∨ k ∈ gs.map (·.1) := by
  induction gs generalizing fs with
  | nil => exact .inl h
  | cons g gs ih =>
    rw [merge_cons] at h
    rw [List.map_cons, List.mem_cons]
    cases ih h with
    | inl h =>
      cases mem_keys_insert h with
      | inl h => exact .inr (.inl h)
      | inr h => exact .inl h
    | inr h => exact .inr (.inr h)

theorem mem_keys_ofList {es : Fields} {k : Value} (h : k ∈ (ofList es).map (·.1))
    : k ∈ es.map (·.1) := by
  cases mem_keys_merge h with
  | inl h => cases h
  | inr h => exact h

theorem getD_merge_of_notMem {gs : Fields} {s : String} (h : ∀ g ∈ gs, g.1 ≠ .text s) (fs : Fields)
    : getD (merge fs gs) s = getD fs s := by
  unfold getD
  rw [get?_merge_of_notMem h]

theorem getD_insert_ne (fs : Fields) {k v : Value} {s : String} (h : k ≠ .text s)
    : getD (insert fs k v) s = getD fs s := by
  unfold getD
  rw [get?_insert_ne fs h]

theorem getD_insert_self (fs : Fields) (s : String) (v : Value)
    : getD (insert fs (.text s) v) s = v := by
  unfold getD
  rw [get?_insert_self]
  rfl

theorem getD_cons_self (s : String) (v : Value) (fs : Fields)
    : getD ((.text s, v) :: fs) s = v := by
  unfold getD
  rw [get?_cons, if_pos (equals_text.mpr rfl)]
  rfl

end Fields

end DocStore
