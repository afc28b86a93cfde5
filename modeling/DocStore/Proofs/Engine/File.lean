import DocStore.Engine.File
import DocStore.Proofs.Extended.Normal
import DocStore.Proofs.Json.Tree

/-!
This module contains what a collection's file is read as: the trees that were written to it. What a
file holds has no character that reading it as text would change.
-/

namespace DocStore

namespace Json

theorem return_notMem_unitEscape : ∀ n : Fin 32, '\r' ∉ unitEscape n.val := by decide

theorem return_notMem_writeChar (c : Char) : '\r' ∉ writeChar false c := by
  unfold writeChar
  split
  . decide
  split
  . decide
  split
  . decide
  split
  . decide
  split
  . decide
  split
  . decide
  split
  . decide
  split
  next hlt => exact return_notMem_unitEscape ⟨c.toNat, hlt⟩
  next hreturn _ _ _ _ =>
    rw [if_pos (.inr rfl), List.mem_singleton]
    exact fun h => hreturn h.symm

theorem return_notMem_writeText (s : List Char) : '\r' ∉ writeText false s := by
  unfold writeText
  simp [return_notMem_writeChar]

theorem return_notMem_writeNumber (x : Double) : '\r' ∉ writeNumber x := by
  cases x with
  | nan => decide
  | infinite negative =>
    cases negative with
    | false => decide
    | true => decide
  | finite negative rank =>
    intro h
    exact absurd (Double.isNumeralChar_text h) (by decide)

theorem return_notMem_newline (level : Nat) : '\r' ∉ newline .indented level := by
  simp [newline, Style.indented]

theorem separator_indented (level : Nat)
    : separator .indented level = ',' :: newline .indented level := rfl

theorem colon_indented : colon .indented = [':', ' '] := rfl

theorem asciiOnly_indented : Style.indented.asciiOnly = false := rfl

theorem return_notMem_writeItems {level : Nat} {xs : List Json}
    (h : ∀ x ∈ xs, ∀ level, '\r' ∉ writeAt .indented level x)
    : '\r' ∉ writeItems .indented level xs := by
  induction xs with
  | nil =>
    rw [writeItems]
    exact List.not_mem_nil
  | cons x xs ih =>
    have hx := h x (List.mem_cons_self ..) (level + 1)
    have hxs := ih fun y hy => h y (List.mem_cons_of_mem _ hy)
    rw [writeItems, separator_indented]
    simp [hx, hxs, return_notMem_newline]

theorem return_notMem_writeMembers {level : Nat} {ms : List (List Char × Json)}
    (h : ∀ m ∈ ms, ∀ level, '\r' ∉ writeAt .indented level m.2)
    : '\r' ∉ writeMembers .indented level ms := by
  induction ms with
  | nil =>
    rw [writeMembers]
    exact List.not_mem_nil
  | cons m ms ih =>
    obtain ⟨k, v⟩ := m
    have hv : '\r' ∉ writeAt .indented (level + 1) v := h (k, v) (List.mem_cons_self ..) (level + 1)
    have hms := ih fun n hn => h n (List.mem_cons_of_mem _ hn)
    have hk := return_notMem_writeText k
    rw [writeMembers, separator_indented, colon_indented, asciiOnly_indented]
    simp [hv, hms, hk, return_notMem_newline]

theorem return_notMem_writeAt {j : Json} (h : j.IsShort)
    : ∀ level, '\r' ∉ writeAt .indented level j := by
  induction h with
  | null =>
    intro level
    rw [writeAt]
    decide
  | bool b =>
    intro level
    rw [writeAt]
    cases b with
    | false => decide
    | true => decide
  | @int n _ =>
    intro level hmem
    rw [writeAt] at hmem
    exact absurd (Numeral.isNumeralChar_text hmem) (by decide)
  | number x =>
    intro level
    rw [writeAt]
    exact return_notMem_writeNumber x
  | text s =>
    intro level
    rw [writeAt]
    exact return_notMem_writeText s
  | @array xs _ ih =>
    intro level
    cases xs with
    | nil =>
      rw [writeAt]
      decide
    | cons x xs =>
      have hx := ih x (List.mem_cons_self ..) (level + 1)
      have hxs := @return_notMem_writeItems level xs fun y hy => ih y (List.mem_cons_of_mem _ hy)
      rw [writeAt]
      simp [hx, hxs, return_notMem_newline]
  | @object ms _ ih =>
    intro level
    cases ms with
    | nil =>
      rw [writeAt]
      decide
    | cons m ms =>
      obtain ⟨k, v⟩ := m
      have hv : '\r' ∉ writeAt .indented (level + 1) v :=
        ih (k, v) (List.mem_cons_self ..) (level + 1)
      have hms := @return_notMem_writeMembers level ms fun n hn => ih n (List.mem_cons_of_mem _ hn)
      have hk := return_notMem_writeText k
      rw [writeAt, colon_indented, asciiOnly_indented]
      simp [hv, hms, hk, return_notMem_newline]

end Json

theorem Content.unifyLines_eq_self {s : List Char} (h : '\r' ∉ s) : unifyLines s = s := by
  induction s with
  | nil => rfl
  | cons c s ih =>
    have hc : c ≠ '\r' := by
      intro heq
      rw [heq] at h
      exact h (List.mem_cons_self ..)
    have hs := ih fun hmem => h (List.mem_cons_of_mem _ hmem)
    rw [unifyLines]
    . rw [hs, if_neg hc]
    . intro t heq _
      exact hc heq

namespace Collection

open Work

theorem read_textOf {docs : List Fields} {s : List Char} (hstored : ∀ d ∈ docs, d.IsStored)
    (hs : textOf docs = .ok s)
    : ∃ js, Extended.encodeTrees .indented (docs.map .object) = .ok js
        ∧ Json.read (Content.unifyLines s) = .ok (.array js) ∧
          (Content.unifyLines s).all Text.isBlank = false := by
  have hlist : (Value.list (docs.map .object)).IsStored := by
    apply Value.IsStored.list
    simpa [Fields.isStored_object] using hstored
  unfold textOf at hs
  obtain ⟨j, hj, hs⟩ := then_ok hs
  cases hs
  have hj := Extended.encode_ok hj
  have hshort := Extended.encodeTree_isShort hlist hj
  rw [Extended.encodeTree] at hj
  obtain ⟨js, hjs, rfl⟩ := map_ok hj
  have hlines := Content.unifyLines_eq_self (Json.return_notMem_writeAt hshort 1)
  unfold Json.write
  rw [hlines]
  refine ⟨js, hjs, Json.read_write rfl hshort, ?_⟩
  rw [List.all_eq_false]
  cases js with
  | nil => exact ⟨'[', List.mem_cons_self .., by decide⟩
  | cons x xs => exact ⟨'[', List.mem_cons_self .., by decide⟩

end Collection

end DocStore
