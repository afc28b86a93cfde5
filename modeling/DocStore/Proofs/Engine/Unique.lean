import DocStore.Proofs.Engine.Growth
import DocStore.Proofs.Value.Equal

/-!
This module contains the proof that the identifiers of a collection stay pairwise unequal, and that
a document keeps its identifier as long as it is not deleted.
-/

namespace DocStore

namespace Collection

def idOf (doc : Fields) : Value := Fields.getD doc Document.idField

def AreUnequal (v w : Value) : Prop := valuesEqual v w = false ∧ valuesEqual w v = false

def HaveUniqueIds (docs : List Fields) : Prop := (docs.map idOf).Pairwise AreUnequal

theorem IsFresh.areUnequal {taken : List Value} {id v : Value} (h : IsFresh taken id)
    (hv : v.IsStored)
    (htaken : v.isHashable = true → v.normalizeId ∈ taken) : AreUnequal v id := by
  have hnormal := hv.normalizeId
  have heq : v.normalizeId.equals id = false := by
    cases hhash : v.isHashable with
    | false =>
      rw [← Value.isHashable_normalizeId] at hhash
      exact Value.equals_unhashable h.stored hhash h.hashable
    | true =>
      have hfree := h.free
      unfold isTaken at hfree
      rw [List.any_eq_false] at hfree
      simpa using hfree _ (htaken hhash)
  constructor
  . apply valuesEqual_eq_false
    rw [h.normal]
    exact heq
  . apply valuesEqual_eq_false
    rw [h.normal, ← Value.equals_comm hnormal h.stored h.hashable]
    exact heq

theorem AreNew.areUnequal {now : Moment} {taken : List Value} {news : List Fields}
    (h : AreNew now taken news) {v : Value} (hv : v.IsStored)
    (htaken : v.isHashable = true → v.normalizeId ∈ taken)
    : ∀ id ∈ news.map idOf, AreUnequal v id := by
  induction h with
  | nil => simp
  | cons fresh _ _ ih =>
    intro id hid
    rw [List.map_cons, List.mem_cons] at hid
    cases hid with
    | inl hid =>
      rw [hid, idOf, getD_assemble_id]
      exact fresh.areUnequal hv htaken
    | inr hid => exact ih (fun hhash => List.mem_cons_of_mem _ (htaken hhash)) id hid

theorem AreNew.haveUniqueIds {now : Moment} {taken : List Value} {news : List Fields}
    (h : AreNew now taken news)
    : HaveUniqueIds news := by
  induction h with
  | nil => exact .nil
  | cons fresh _ rest ih =>
    refine .cons ?_ ih
    rw [idOf, getD_assemble_id]
    apply rest.areUnequal fresh.stored
    intro _
    rw [fresh.normal]
    exact List.mem_cons_self ..

theorem mem_takenIds {docs : List Fields} {id : Value} (h : id ∈ docs.map idOf)
    (hhash : id.isHashable = true)
    : id.normalizeId ∈ takenIds docs := by
  rw [List.mem_map] at h
  obtain ⟨d, hd, rfl⟩ := h
  unfold takenIds
  rw [List.mem_filter]
  refine ⟨List.mem_map.mpr ⟨d, hd, rfl⟩, ?_⟩
  rw [Value.isHashable_normalizeId]
  exact hhash

theorem idOf_merge {doc merged : Fields} {patch : Value} {now : Moment}
    (hp : Document.IsPatch patch)
    (h : merge doc patch now = .ok merged) : idOf merged = idOf doc := by
  obtain ⟨fs, rfl, rfl⟩ := merge_ok h
  have hne : Value.text Document.updatedAt ≠ .text Document.idField := by
    intro heq
    exact absurd (Value.text.inj heq) (by decide)
  unfold idOf
  rw [Fields.getD_insert_ne _ hne, Fields.getD_merge_of_notMem]
  exact fun f hf => hp.foreign fs rfl f hf _ (by decide)

theorem map_idOf_of_isMerged {patch : Value} {now : Moment} {docs docs' : List Fields}
    (hp : Document.IsPatch patch) (h : List.Forall₂ (IsMerged patch now) docs docs')
    : docs'.map idOf = docs.map idOf := by
  induction h with
  | nil => rfl
  | cons hm _ ih =>
    rw [List.map_cons, List.map_cons, ih]
    cases hm with
    | inl hm => rw [hm]
    | inr hm => rw [idOf_merge hp hm]

theorem Growth.ids {now : Moment} {docs docs' : List Fields} (h : Growth now docs docs')
    : docs.map idOf <+: docs'.map idOf := by
  cases h with
  | append _ =>
    rw [List.map_append]
    exact List.prefix_append ..
  | patch hp h =>
    exact ⟨[], by rw [map_idOf_of_isMerged hp h, List.append_nil]⟩

theorem Change.haveUniqueIds {now : Moment} {docs docs' : List Fields}
    (hstored : ∀ d ∈ docs, d.IsStored)
    (hunique : HaveUniqueIds docs) (h : Change now docs docs') : HaveUniqueIds docs' := by
  unfold HaveUniqueIds at hunique ⊢
  cases h with
  | growth h =>
    cases h with
    | append hnew =>
      rw [List.map_append, List.pairwise_append]
      refine ⟨hunique, hnew.haveUniqueIds, ?_⟩
      intro id hid
      have hid' : id.IsStored := by
        rw [List.mem_map] at hid
        obtain ⟨d, hd, rfl⟩ := hid
        exact (hstored d hd).getD _
      exact hnew.areUnequal hid' (mem_takenIds hid)
    | patch hp h =>
      rw [map_idOf_of_isMerged hp h]
      exact hunique
  | drop h => exact hunique.sublist (h.map idOf)

end Collection

namespace Engine

open Collection

theorem steps_uniqueIds {e e' : Engine} (he : e.Reachable) (hs : Steps e e') {i : Nat}
    (hi : i < e.opened.length) (hunique : HaveUniqueIds (e.store i).documents)
    : i < e'.opened.length ∧ HaveUniqueIds (e'.store i).documents := by
  induction hs with
  | refl => exact ⟨hi, hunique⟩
  | @tail e₁ e₂ hs hstep ih =>
    obtain ⟨hi₁, hunique₁⟩ := ih
    obtain ⟨hi₂, clock, hchange⟩ := hstep.change hi₁
    exact ⟨hi₂, hchange.haveUniqueIds ((he.steps hs).sound.documents i) hunique₁⟩

/--
If the documents that a collection is opened with have pairwise unequal identifiers, they have so
after all steps that follow. No request but a deletion drops a document, and none gives another
identifier to one.
-/
theorem ids_stay_unique {e e' : Engine} (he : e.Reachable) {i : Nat} (hi : i < e.opened.length)
    (hunique : HaveUniqueIds (e.store i).documents) (hs : Steps e e')
    : HaveUniqueIds (e'.store i).documents
      ∧ ∀ (clock : Clock) (q : Request),
        let docs := (e'.store i).documents
        let docs' := ((run clock.now q e').2.store i).documents
        if q.deletes then docs'.Sublist docs else docs.map idOf <+: docs'.map idOf := by
  obtain ⟨hi', hunique'⟩ := steps_uniqueIds he hs hi hunique
  refine ⟨hunique', ?_⟩
  intro clock q docs docs'
  have hchanges : q.Changes clock.now docs docs' := run_changes rfl hi'
  unfold Request.Changes at hchanges
  split
  next hdeletes =>
    rw [if_pos hdeletes] at hchanges
    exact hchanges
  next hdeletes =>
    rw [if_neg hdeletes] at hchanges
    exact hchanges.ids

def openedEngine : Engine := (begin (.flush (.text "c")) (onEmpty "d")).2

theorem openedEngine_reachable : openedEngine.Reachable :=
  .step (.start { root := "d" } {}) (.begin _)

theorem openedEngine_documents : (openedEngine.store 0).documents = [] :=
  List.length_eq_zero_iff.mp (by decide +kernel)

def createTwo : Request :=
  .call (.createMany (.text "c") (.list [.object [(.text "_id", .bool true)], .object []]))

theorem ids_stay_unique_createTwo
    : HaveUniqueIds ((run Clock.epoch.now createTwo openedEngine).2.store 0).documents := by
  refine (ids_stay_unique openedEngine_reachable
    (by decide +kernel) ?_ (run_steps .epoch createTwo _)).1
  rw [openedEngine_documents]
  exact .nil

end Engine

end DocStore
