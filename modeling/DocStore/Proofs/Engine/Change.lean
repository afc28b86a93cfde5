import Mathlib.Data.List.Forall2
import DocStore.Proofs.Engine.Effect
import DocStore.Proofs.Extended.Normal
import DocStore.Proofs.Extended.Own
import DocStore.Proofs.Query.Refusal
import DocStore.Proofs.Value.Equal

/-!
This module contains the ways in which a mutation changes the documents of a collection: new ones
are put at the end, some are merged with a patch, or some are dropped.
-/

namespace DocStore

open Work

namespace Document

structure IsPatch (v : Value) : Prop where
  read : v.IsRead
  foreign : ∀ fs, v = .object fs → ∀ f ∈ fs, ∀ name ∈ storeFields, f.1 ≠ .text name

theorem IsPatch.stored {v : Value} (h : IsPatch v) : v.IsStored := h.read.isStored

theorem mem_stripStoreFields {fs : Fields} {f : Value × Value} (h : f ∈ stripStoreFields fs)
    : f ∈ fs ∧ ∀ name ∈ storeFields, f.1 ≠ .text name := by
  unfold stripStoreFields at h
  rw [List.mem_filter] at h
  refine ⟨h.1, ?_⟩
  intro name hname he
  have : storeFields.any (fun name => f.1.equals (.text name)) = true := by
    rw [List.any_eq_true]
    exact ⟨name, hname, Value.equals_text.mpr he⟩
  rw [this] at h
  exact absurd h.2 (by decide)

theorem stripStoreFields_keeps {f : Value × Value} {s : String} (h : f.1 = .text s)
    (hs : s.toList.head? = some '$')
    : (!storeFields.any fun name => f.1.equals (.text name)) = true := by
  have hnames : ∀ name ∈ storeFields, name.toList.head? ≠ some '$' := by decide
  rw [Bool.not_eq_true', List.any_eq_false, h]
  intro name hname heq
  cases Value.equals_text.mp heq
  exact hnames s hname hs

theorem stripStoreFields_isRead {fs : Fields} (h : (Value.object fs).IsRead)
    : (Value.object (stripStoreFields fs)).IsRead :=
  Fields.isRead_filter h fun _ _ _ hkey hs => stripStoreFields_keeps hkey hs

theorem stripStoreFields_isPatch {fs : Fields} (h : (Value.object fs).IsRead)
    : IsPatch (.object (stripStoreFields fs)) := by
  constructor
  . exact stripStoreFields_isRead h
  . intro gs hgs f hf
    cases hgs
    exact (mem_stripStoreFields hf).2

theorem mark_mem_storeFields {name : String} (h : name ∈ storeFields)
    : Extended.markLetter ∈ name.toList := by
  revert name
  decide

theorem normalForm_isPatch {fs : Fields} {v : Value} {ids ids' : IdSupply}
    (h : Extended.normalForm (.object (stripStoreFields fs)) ids = (.ok v, ids'))
    : IsPatch v := by
  constructor
  . exact Extended.normalForm_reads _ _ _ _ h
  . intro gs hgs g hg name hname he
    rw [hgs] at h
    obtain ⟨f, hf, hfe⟩ := Extended.normalForm_key h (mark_mem_storeFields hname) hg he
    exact (mem_stripStoreFields hf).2 name hname hfe

end Document

namespace Collection

structure IsFresh (taken : List Value) (id : Value) : Prop where
  present : id ≠ .null
  normal : id.normalizeId = id
  read : id.IsRead
  hashable : id.isHashable = true
  free : isTaken taken id = false

theorem IsFresh.stored {taken : List Value} {id : Value} (h : IsFresh taken id) : id.IsStored :=
  h.read.isStored

inductive AreNew (now : Moment) : List Value → List Fields → Prop where
  | nil (taken) : AreNew now taken []
  | cons {taken id fs news} (fresh : IsFresh taken id) (fields : (Value.object fs).IsRead)
      (rest : AreNew now (id :: taken) news) : AreNew now taken (assemble id fs now :: news)

def IsMerged (patch : Value) (now : Moment) (doc doc' : Fields) : Prop :=
  doc' = doc ∨ merge doc patch now = .ok doc'

inductive Growth (now : Moment) (docs : List Fields) : List Fields → Prop where
  | append {new} (h : AreNew now (takenIds docs) new) : Growth now docs (docs ++ new)
  | patch {patch docs'} (hp : Document.IsPatch patch)
      (h : List.Forall₂ (IsMerged patch now) docs docs') : Growth now docs docs'

inductive Change (now : Moment) (docs : List Fields) : List Fields → Prop where
  | growth {docs'} (h : Growth now docs docs') : Change now docs docs'
  | drop {docs'} (h : docs'.Sublist docs) : Change now docs docs'

theorem Growth.refl (now : Moment) (docs : List Fields) : Growth now docs docs := by
  have h : Growth now docs (docs ++ []) := .append (.nil (takenIds docs))
  rwa [List.append_nil] at h

theorem Change.refl (now : Moment) (docs : List Fields) : Change now docs docs := .drop (.refl docs)

section

variable {now : Moment} {P : Fields → Prop} {docs docs' : List Fields}

theorem AreNew.forall_mem {taken : List Value}
    (hnew : ∀ id fs, id.IsRead → (Value.object fs).IsRead → P (assemble id fs now))
    (h : AreNew now taken docs) : ∀ d ∈ docs, P d := by
  induction h with
  | nil => simp
  | cons fresh fields _ ih =>
    intro d hd
    rw [List.mem_cons] at hd
    cases hd with
    | inl hd =>
      rw [hd]
      exact hnew _ _ fresh.read fields
    | inr hd => exact ih d hd

theorem forall_mem_of_isMerged {patch : Value}
    (hmerge : ∀ d d', P d → merge d patch now = .ok d' → P d')
    (hdocs : ∀ d ∈ docs, P d) (h : List.Forall₂ (IsMerged patch now) docs docs')
    : ∀ d ∈ docs', P d := by
  induction h with
  | nil => simp
  | @cons doc doc' docs docs' hm _ ih =>
    have hdoc := hdocs doc (List.mem_cons_self ..)
    intro d hd
    rw [List.mem_cons] at hd
    cases hd with
    | inl hd =>
      rw [hd]
      cases hm with
      | inl hm =>
        rw [hm]
        exact hdoc
      | inr hm => exact hmerge doc doc' hdoc hm
    | inr hd => exact ih (fun e he => hdocs e (List.mem_cons_of_mem _ he)) d hd

theorem Change.forall_mem
    (hnew : ∀ id fs, id.IsRead → (Value.object fs).IsRead → P (assemble id fs now))
    (hmerge : ∀ patch d d', Document.IsPatch patch → P d → merge d patch now = .ok d' → P d')
    (hdocs : ∀ d ∈ docs, P d) (h : Change now docs docs') : ∀ d ∈ docs', P d := by
  cases h with
  | growth h =>
    cases h with
    | append h =>
      intro d hd
      rw [List.mem_append] at hd
      cases hd with
      | inl hd => exact hdocs d hd
      | inr hd => exact h.forall_mem hnew d hd
    | patch hp h => exact forall_mem_of_isMerged (fun d d' => hmerge _ d d' hp) hdocs h
  | drop h => exact fun d hd => hdocs d (h.subset hd)

end

theorem drawFree_free {taken : List Char → Bool} {n : Nat} {ids ids' : IdSupply} {i : ObjectId}
    (h : ids.drawFree taken n = (some i, ids')) : taken i.hex = false := by
  induction n generalizing ids with
  | zero =>
    unfold IdSupply.drawFree at h
    dsimp only at h
    split at h
    . cases h
    next hi =>
      cases h
      simpa using hi
  | succ n ih =>
    unfold IdSupply.drawFree at h
    dsimp only at h
    split at h
    . exact ih h
    next hi =>
      cases h
      simpa using hi

theorem generateId_ok {taken : List Value} {v : Value} {ids ids' : IdSupply}
    (h : generateId (.set false taken) ids = (.ok v, ids'))
    : ∃ i : ObjectId, v = .ofText i.hex ∧ isTaken taken v = false := by
  unfold generateId at h
  split at h
  . cases h
  . split at h
    next i _ hi =>
      cases h
      exact ⟨i, rfl, drawFree_free hi⟩
    . cases h

theorem newId_ok {collection : String} {given id : Value} {taken : List Value} {ids ids' : IdSupply}
    (hnormal : given.normalizeId = given) (hread : given.IsRead)
    (h : newId collection given taken ids = (.ok id, ids')) : IsFresh taken id := by
  unfold newId at h
  split at h
  . obtain ⟨i, rfl, hfree⟩ := generateId_ok h
    exact ⟨nofun, rfl, .text _, rfl, hfree⟩
  next hne =>
    split at h
    . cases h
    next hhash =>
      split at h
      . cases h
      next hfree =>
        cases h
        exact ⟨hne, hnormal, hread, by simpa using hhash, by simpa using hfree⟩

theorem newDocument_ok {collection : String} {doc : Value} {taken : List Value} {now : Moment}
    {new : Fields} {ids ids' : IdSupply}
    (h : newDocument collection doc taken now ids = (.ok new, ids'))
    : ∃ id fs, new = assemble id fs now ∧ IsFresh taken id ∧ (Value.object fs).IsRead := by
  unfold newDocument at h
  split at h
  . obtain ⟨v, ids₁, hv, h⟩ := of_bind_ok h
    have hread := Extended.normalForm_reads _ _ _ _ hv
    split at h
    next fs =>
      obtain ⟨id, ids₂, hid, h⟩ := of_bind_ok h
      cases h
      refine ⟨id, fs, rfl, ?_, hread⟩
      exact newId_ok (Value.normalizeId_idem _)
        ((Fields.areRead_of_isRead hread).getD _).normalizeId hid
    . cases h
  . cases h

theorem getD_assemble_id (id : Value) (fs : Fields) (now : Moment)
    : Fields.getD (assemble id fs now) Document.idField = id := Fields.getD_cons_self _ _ _

theorem newDocuments_ok {collection : String} {docs taken : List Value} {now : Moment}
    {news : List Fields} {ids ids' : IdSupply}
    (h : newDocuments collection now docs taken ids = (.ok news, ids'))
    : AreNew now taken news := by
  induction docs generalizing taken news ids with
  | nil =>
    cases h
    exact .nil _
  | cons doc docs ih =>
    unfold newDocuments at h
    obtain ⟨new, ids₁, hnew, h⟩ := of_bind_ok h
    obtain ⟨rest, ids₂, hrest, h⟩ := of_bind_ok h
    cases h
    obtain ⟨id, fs, rfl, hid, hfs⟩ := newDocument_ok hnew
    rw [getD_assemble_id] at hrest
    exact .cons hid hfs (ih hrest)

theorem isMerged_set {docs : List Fields} {index : Nat} {patch : Value} {now : Moment}
    {doc merged : Fields} (hdoc : docs[index]? = some doc) (h : merge doc patch now = .ok merged)
    : List.Forall₂ (IsMerged patch now) docs (docs.set index merged) := by
  induction docs generalizing index with
  | nil => simp at hdoc
  | cons d docs ih =>
    cases index with
    | zero =>
      simp only [List.getElem?_cons_zero, Option.some.injEq] at hdoc
      rw [hdoc]
      refine .cons (.inr h) ?_
      exact List.forall₂_same.mpr fun _ _ => .inl rfl
    | succ index =>
      rw [List.getElem?_cons_succ] at hdoc
      exact .cons (.inl rfl) (ih hdoc)

theorem isMerged_mergeMatching {query patch : Value} {now : Moment} {docs docs' : List Fields}
    {r : Except Error Nat} (h : mergeMatching query patch now docs = (r, docs'))
    : List.Forall₂ (IsMerged patch now) docs docs' := by
  induction docs generalizing r docs' with
  | nil =>
    cases h
    exact .nil
  | cons doc docs ih =>
    have hsame : List.Forall₂ (IsMerged patch now) docs docs :=
      List.forall₂_same.mpr fun _ _ => .inl rfl
    rcases hrest : mergeMatching query patch now docs with ⟨r', rest⟩
    unfold mergeMatching at h
    rw [hrest] at h
    split at h
    . cases h
      exact .cons (.inl rfl) hsame
    . cases h
      exact .cons (.inl rfl) (ih hrest)
    . split at h
      . cases h
        exact .cons (.inl rfl) hsame
      next hm =>
        cases h
        exact .cons (.inr hm) (ih hrest)

end Collection

namespace Mutation

open Collection

def IsNormal : Mutation → Prop
  | .update _ patch => Document.IsPatch patch
  | .updateMany _ patch => Document.IsPatch patch
  | .upsert fs _ => (Value.object fs).IsRead
  | _ => True

def deletes : Mutation → Bool
  | .delete _ => true
  | .deleteMany _ => true
  | _ => false

theorem Changes.growth {docs : List Fields} {ids : IdSupply} {index : Nat} {patch : Value}
    {now : Moment} {f : Effect}
    (h : Changes docs ids index patch now f) (hp : Document.IsPatch patch)
    : Growth now docs f.documents := by
  cases h with
  | changed found merge => exact .patch hp (isMerged_set found merge)
  | _ => exact .refl now docs

theorem Appends.growth {collection : String} {docs : List Fields} {ids : IdSupply} {doc : Value}
    {now : Moment} {report : Value → Report} {f : Effect}
    (h : Appends collection docs ids doc now report f)
    : Growth now docs f.documents := by
  cases h with
  | refused => exact .refl now docs
  | appended fresh =>
    obtain ⟨id, fs, rfl, hid, hfs⟩ := newDocument_ok fresh
    exact .append (.cons hid hfs (.nil _))

theorem effect_growth {m : Mutation} (hm : m.IsNormal) (hdeletes : m.deletes = false) (now : Moment)
    (collection : String) (docs : List Fields) (ids : IdSupply)
    : Growth now docs (m.effect now collection docs ids).documents := by
  have hcomes := comesTo_effect m now collection docs ids
  generalize m.effect now collection docs ids = f at hcomes ⊢
  cases hcomes with
  | create appends => exact appends.growth
  | createMany fresh => exact .append (newDocuments_ok fresh)
  | update _ changes => exact changes.growth hm
  | updateManyRefused merges => exact .patch hm (isMerged_mergeMatching merges)
  | updateMany merges => exact .patch hm (isMerged_mergeMatching merges)
  | upsertFound _ changes => exact changes.growth (Document.stripStoreFields_isPatch hm)
  | upsertMissing _ appends => exact appends.growth
  | delete | deleteMany => cases hdeletes
  | _ => exact .refl now docs

theorem effect_sublist {m : Mutation} (hdeletes : m.deletes = true) (now : Moment)
    (collection : String)
    (docs : List Fields) (ids : IdSupply)
    : (m.effect now collection docs ids).documents.Sublist docs := by
  have hcomes := comesTo_effect m now collection docs ids
  generalize m.effect now collection docs ids = f at hcomes ⊢
  cases hcomes with
  | delete => exact List.eraseIdx_sublist ..
  | deleteMany unmatched => exact unmatched_sublist unmatched
  | deleteMissing | deleteManyRefused => exact .refl docs
  | _ => cases hdeletes

theorem effect_change {m : Mutation} (hm : m.IsNormal) (now : Moment) (collection : String)
    (docs : List Fields) (ids : IdSupply)
    : Change now docs (m.effect now collection docs ids).documents := by
  cases hdeletes : m.deletes with
  | false => exact .growth (effect_growth hm hdeletes now collection docs ids)
  | true => exact .drop (effect_sublist hdeletes now collection docs ids)

end Mutation

end DocStore
