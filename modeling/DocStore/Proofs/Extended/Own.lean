import DocStore.Identifier
import DocStore.Proofs.Extended.Decode

/-!
This module contains the fields of objects that were read: what they are read as is decided by the
names that begin with a dollar sign, so that they stand for themselves also when others are dropped.
-/

namespace DocStore

namespace Fields

theorem mem_keys_insert_of_mem {fs : Fields} {k : Value} (h : k ∈ fs.map (·.1)) (s : String)
    (v : Value)
    : k ∈ (fs.insert (.text s) v).map (·.1) := by
  by_cases hc : fs.contains (.text s) = true
  . rw [map_fst_insert_of_contains v hc]
    exact h
  . unfold Fields.insert
    rw [if_neg hc, List.map_append]
    exact List.mem_append_left _ h

theorem mem_keys_insert_self (fs : Fields) (s : String) (v : Value)
    : .text s ∈ (fs.insert (.text s) v).map (·.1) := by
  by_cases hc : fs.contains (.text s) = true
  . rw [map_fst_insert_of_contains v hc]
    obtain ⟨f, hf, hfs⟩ := contains_text.mp hc
    exact hfs ▸ List.mem_map_of_mem hf
  . unfold Fields.insert
    rw [if_neg hc, List.map_append]
    exact List.mem_append_right _ (List.mem_singleton_self _)

theorem mem_keys_merge_of_mem {gs : Fields} (hg : ∀ g ∈ gs, ∃ s, g.1 = .text s) {fs : Fields}
    {k : Value}
    (h : k ∈ fs.map (·.1) ∨ k ∈ gs.map (·.1)) : k ∈ (fs.merge gs).map (·.1) := by
  induction gs generalizing fs with
  | nil => exact h.resolve_right (List.not_mem_nil)
  | cons g gs ih =>
    obtain ⟨s, hs⟩ := hg g (List.mem_cons_self ..)
    rw [merge_cons, hs]
    apply ih fun g' hg' => hg g' (List.mem_cons_of_mem _ hg')
    rw [List.map_cons, List.mem_cons, hs] at h
    rcases h with h | rfl | h
    . exact .inl (mem_keys_insert_of_mem h s g.2)
    . exact .inl (mem_keys_insert_self fs s g.2)
    . exact .inr h

end Fields

namespace Extended

theorem firstMark?_cons_text (s : String) (v : Value) (fs : Fields)
    : firstMark? ((.text s, v) :: fs) = ((Mark.ofName? s).map fun m => (m, v)).or
      (firstMark? fs) := by
  unfold firstMark?
  rw [List.findSome?_cons]
  dsimp only
  cases Mark.ofName? s <;> rfl

theorem head?_name (mark : Mark) : mark.name.toList.head? = some '$' := by
  cases mark <;> decide

section

variable {fs : Fields} {p : Value × Value → Bool}
  (hp : ∀ f ∈ fs, ∀ s, f.1 = .text s → s.toList.head? = some '$' → p f = true)

include hp

theorem getD_filter {s : String} (hs : s.toList.head? = some '$')
    : Fields.getD (fs.filter p) s = Fields.getD fs s := by
  unfold Fields.getD
  rw [Fields.get?_filter fun f hf hfs => hp f hf s hfs hs]

theorem firstMark?_filter (hk : ∀ f ∈ fs, ∃ s, f.1 = .text s)
    : firstMark? (fs.filter p) = firstMark? fs := by
  induction fs with
  | nil => rfl
  | cons f fs ih =>
    have ih :=
      ih (fun g hg => hp g (List.mem_cons_of_mem _ hg)) fun g hg => hk g (List.mem_cons_of_mem _ hg)
    obtain ⟨k, v⟩ := f
    obtain ⟨s, rfl⟩ : ∃ s, k = .text s := hk (k, v) (List.mem_cons_self ..)
    cases hpf : p (.text s, v) with
    | true => rw [List.filter_cons_of_pos hpf, firstMark?_cons_text, firstMark?_cons_text, ih]
    | false =>
      rw [List.filter_cons_of_neg (by rw [hpf]; decide), firstMark?_cons_text, ih]
      cases hs : Mark.ofName? s with
      | none => rfl
      | some mark =>
        have hkept := hp _ (List.mem_cons_self ..) s rfl (by rw [← name_of_ofName? hs, head?_name])
        rw [hpf] at hkept
        cases hkept

theorem areTyped_filter (hk : ∀ f ∈ fs, ∃ s, f.1 = .text s)
    : areTyped (fs.filter p) = areTyped fs := by
  unfold areTyped areReference
  rw [firstMark?_filter hp hk, Fields.get?_filter fun f hf hfs =>
    hp f hf _ hfs (by decide), getD_filter hp (by decide), getD_filter hp (by decide)]

theorem filter_of_length {mark : Mark} {v : Value} (hmark : firstMark? fs = some (mark, v))
    (h : fs.length = 1)
    : fs.filter p = fs := by
  have hfs := eq_of_firstMark? hmark h
  refine List.filter_eq_self.mpr fun f hf => ?_
  have hname := hf
  rw [hfs, List.mem_singleton] at hname
  exact hp f hf _ (congrArg Prod.fst hname) (head?_name mark)

theorem StandForThemselves.filter (hk : ∀ f ∈ fs, ∃ s, f.1 = .text s) (h : StandForThemselves fs)
    : StandForThemselves (fs.filter p) := by
  have hmark := firstMark?_filter hp hk
  rcases h with h | h
  . exact .inl ((areTyped_filter hp hk).trans h)
  . refine .inr ?_
    cases h with
    | around first h =>
      unfold areAround at h
      refine .around (hmark.trans first) ?_
      unfold areAround
      rwa [getD_filter hp (by decide)]
    | reference first => exact .reference (hmark.trans first)
    | code first only scope =>
      have hall : fs.filter p = fs := by
        refine List.filter_eq_self.mpr fun f hf => ?_
        rcases only f hf with hname | hname
        . exact hp f hf _ hname (by decide)
        . exact hp f hf _ hname (by decide)
      rw [hall]
      exact .code first only scope
    | decimal first only =>
      rw [filter_of_length hp first only]
      exact .decimal first only
    | oldPattern first bytes options =>
      have hoptions : oldOptions (fs.filter p) = oldOptions fs := by
        unfold oldOptions
        rw [Fields.get?_filter fun f hf hfs => hp f hf _ hfs (by decide)]
      exact .oldPattern (hmark.trans first) bytes (hoptions.trans options)
    | pattern first only two options pattern bytes =>
      rw [filter_of_length hp first only]
      exact .pattern first only two options pattern bytes

end

end Extended

theorem Value.IsRead.normalizeId {v : Value} (h : v.IsRead) : v.normalizeId.IsRead := by
  unfold Value.normalizeId
  split
  . exact .text _
  . exact h

namespace Fields

open Extended

theorem areRead_of_isRead {fs : Fields} (h : (Value.object fs).IsRead) : fs.AreRead := by
  cases h with
  | object keyed _ h => exact ⟨keyed, h⟩

theorem AreRead.getD {fs : Fields} (h : fs.AreRead) (s : String) : (fs.getD s).IsRead := by
  unfold Fields.getD
  cases hv : fs.get? (.text s) with
  | none => exact .null
  | some v =>
    obtain ⟨f, hf, _, rfl⟩ := get?_mem hv
    exact h.values f hf

theorem AreRead.insert {fs : Fields} (h : fs.AreRead) (s : String) {v : Value} (hv : v.IsRead)
    : (fs.insert (.text s) v).AreRead := by
  refine ⟨h.keyed.insert s v, ?_⟩
  intro f hf
  cases mem_insert hf with
  | inl hf =>
    rw [hf]
    exact hv
  | inr hf => exact h.values f hf

theorem AreRead.merge {fs gs : Fields} (hfs : fs.AreRead) (hgs : gs.AreRead)
    : (fs.merge gs).AreRead := by
  refine ⟨hfs.keyed.merge hgs.keyed.keys, ?_⟩
  intro f hf
  cases mem_merge hf with
  | inl hf =>
    obtain ⟨g, hg, he⟩ := hf
    rw [he]
    exact hgs.values g hg
  | inr hf => exact hfs.values f hf

theorem isRead_filter {fs : Fields} (h : (Value.object fs).IsRead) {p : Value × Value → Bool}
    (hp : ∀ f ∈ fs, ∀ s, f.1 = .text s → s.toList.head? = some '$' → p f = true)
    : (Value.object (fs.filter p)).IsRead := by
  cases h with
  | object keyed own h =>
    refine .object ⟨?_, keyed.nodup.sublist (List.filter_sublist.map _)⟩
      (own.filter hp keyed.keys) ?_
    . intro f hf
      exact keyed.keys f (List.mem_filter.mp hf).1
    . intro f hf
      exact h f (List.mem_filter.mp hf).1

end Fields

end DocStore
