import DocStore.Proofs.Engine.File
import DocStore.Proofs.Engine.Unique
import DocStore.Proofs.Extended.Date

/-!
This module contains the times of documents: when a document was created, and when it was changed
last. New documents have them, a patch keeps the one and does not turn back the other, and a file
gives them back.
-/

namespace DocStore

open Work

namespace Document

structure HasTimes (doc : Fields) (created updated : Int) : Prop where
  createdField : Fields.getD doc createdAt = .date (.utc created)
  updatedField : Fields.getD doc updatedAt = .date (.utc updated)
  wholeCreated : Extended.IsWhole created
  wholeUpdated : Extended.IsWhole updated
  ordered : created ≤ updated

def IsTimed (doc : Fields) : Prop := ∃ created updated, HasTimes doc created updated

def IsLater (doc doc' : Fields) : Prop :=
  Collection.idOf doc' = Collection.idOf doc
    ∧ ∃ created updated updated', HasTimes doc created updated ∧ HasTimes doc' created updated' ∧
      updated ≤ updated'

theorem createdAt_ne_updatedAt : Value.text createdAt ≠ .text updatedAt := by
  intro h
  exact absurd (Value.text.inj h) (by decide)

theorem IsTimed.isLater {doc : Fields} (h : IsTimed doc) : IsLater doc doc := by
  obtain ⟨created, updated, htimes⟩ := h
  exact ⟨rfl, created, updated, updated, htimes, htimes, le_refl updated⟩

end Document

theorem Clock.now_isWhole (clock : Clock)
    : ∃ wall, clock.now = .utc wall ∧ Extended.IsWhole wall := by
  refine ⟨clock.micros / 1000 * 1000, rfl, ?_, ?_⟩
  . have h := clock.now_isStored
    cases h with
    | date h => exact h
  . omega

namespace Collection

open Document

theorem getD_assemble {id : Value} {fs : Fields} {now : Moment} {name : String}
    (hid : name ≠ idField)
    (hname : name ∈ [createdAt, updatedAt])
    : Fields.getD (assemble id fs now) name = .date now := by
  have hstore : name ∈ storeFields := List.mem_cons_of_mem _ hname
  have hstripped : Fields.get? (stripStoreFields fs) (.text name) = none := by
    rw [Fields.get?_eq_none]
    exact fun f hf => (mem_stripStoreFields hf).2 name hstore
  unfold assemble Fields.getD
  rw [List.cons_append, Fields.get?_cons, if_neg, Fields.get?_append, hstripped]
  . simp only [List.mem_cons, List.not_mem_nil, or_false] at hname
    have hne : ¬ (Value.text createdAt).equals (.text updatedAt) = true := by
      rw [Value.equals_text]
      exact createdAt_ne_updatedAt
    cases hname with
    | inl hname =>
      rw [hname, Fields.get?_cons, if_pos (Value.equals_text.mpr rfl)]
      rfl
    | inr hname =>
      rw [hname, Fields.get?_cons, if_neg hne, Fields.get?_cons, if_pos (Value.equals_text.mpr rfl)]
      rfl
  . rw [Value.equals_text]
    intro heq
    exact hid (Value.text.inj heq).symm

theorem assemble_isTimed (clock : Clock) (id : Value) (fs : Fields)
    : IsTimed (assemble id fs clock.now) := by
  obtain ⟨wall, hnow, hwhole⟩ := clock.now_isWhole
  refine ⟨wall, wall, ?_, ?_, hwhole, hwhole, le_refl wall⟩
  . rw [getD_assemble (by decide) (by decide), hnow]
  . rw [getD_assemble (by decide) (by decide), hnow]

theorem laterOf_utc (now wall : Int)
    : laterOf (.utc now) (.date (.utc wall)) = .utc (max now wall) := by
  unfold laterOf
  dsimp only
  rw [Extended.instant_utc, Extended.instant_utc]
  split
  next h => rw [max_eq_right (le_of_lt h.2)]
  next h =>
    rw [max_eq_left]
    by_contra hlt
    exact h ⟨rfl, by omega⟩

theorem timeOfChange_eq {doc : Fields} {created updated : Int} (h : HasTimes doc created updated)
    (now : Int)
    : timeOfChange doc (.utc now) = .utc (max (max now created) updated) := by
  unfold timeOfChange
  rw [h.createdField, h.updatedField, laterOf_utc, laterOf_utc]

theorem isWhole_max {a b : Int} (ha : Extended.IsWhole a) (hb : Extended.IsWhole b)
    : Extended.IsWhole (max a b) := by
  cases max_choice a b with
  | inl h =>
    rw [h]
    exact ha
  | inr h =>
    rw [h]
    exact hb

theorem merge_isLater {doc merged : Fields} {patch : Value} (clock : Clock) (hp : IsPatch patch)
    (hdoc : IsTimed doc) (h : merge doc patch clock.now = .ok merged) : IsLater doc merged := by
  refine ⟨idOf_merge hp h, ?_⟩
  obtain ⟨created, updated, htimes⟩ := hdoc
  obtain ⟨now, hnow, hwhole⟩ := clock.now_isWhole
  obtain ⟨fs, rfl, rfl⟩ := merge_ok h
  rw [hnow, timeOfChange_eq htimes]
  refine ⟨created, updated, max (max now created) updated, htimes, ?_, le_max_right ..⟩
  constructor
  . rw [Fields.getD_insert_ne _ createdAt_ne_updatedAt.symm, Fields.getD_merge_of_notMem]
    . exact htimes.createdField
    . exact fun f hf => hp.foreign fs rfl f hf _ (by decide)
  . exact Fields.getD_insert_self ..
  . exact htimes.wholeCreated
  . exact isWhole_max (isWhole_max hwhole htimes.wholeCreated) htimes.wholeUpdated
  . exact le_trans htimes.ordered (le_max_right ..)

end Collection

namespace Extended

variable {layout : Layout}

theorem ofText_of_encodeKey {k : Value} {name : List Char} (hk : ∃ s, k = .text s)
    (h : encodeKey layout k = .ok name)
    : .ofText name = k := by
  obtain ⟨s, rfl⟩ := hk
  cases h
  rw [Value.ofText, String.ofList_toList]

theorem keys_decodeMembers {fs es : Fields} {ms : List (List Char × Json)} {ids ids' : IdSupply}
    (hk : ∀ f ∈ fs, ∃ s, f.1 = .text s) (hms : encodeFields layout fs = .ok ms)
    (hes : decodeMembers ms ids = (.ok es, ids')) : es.map (·.1) = fs.map (·.1) := by
  have hread := forall₂_comp (encodeFields_forall₂ hms) (decodeMembers_forall₂ hes)
  have hnames : List.Forall₂ (fun f e : Value × Value => f.1 = e.1) fs es := by
    refine forall₂_of_mem ?_ hread
    rintro f hf e _ ⟨m, hfm, hme⟩
    rw [hme.1, ofText_of_encodeKey (hk f hf) hfm.1]
  rw [eq_comm, ← List.forall₂_eq_eq_eq, List.forall₂_map_left_iff, List.forall₂_map_right_iff]
  exact hnames

theorem get?_decodeMembers {fs es : Fields} {ms : List (List Char × Json)} {ids ids' : IdSupply}
    (hk : ∀ f ∈ fs, ∃ s, f.1 = .text s) (hms : encodeFields layout fs = .ok ms)
    (hes : decodeMembers ms ids = (.ok es, ids')) {name : Value} {wall : Int} (hwall : IsWhole wall)
    (hget : Fields.get? fs name = some (.date (.utc wall)))
    : Fields.get? es name = some (.date (.utc wall)) := by
  have hread := forall₂_comp (encodeFields_forall₂ hms) (decodeMembers_forall₂ hes)
  clear hms hes
  induction hread with
  | nil => cases hget
  | @cons f e fs es hfe _ ih =>
    obtain ⟨m, ⟨hname, hencode⟩, hem, ids₁, ids₂, hdecode⟩ := hfe
    rw [ofText_of_encodeKey (hk f (List.mem_cons_self ..)) hname] at hem
    rw [Fields.get?_cons] at hget ⊢
    rw [hem]
    split at hget
    next hsame =>
      rw [if_pos hsame]
      rw [Option.some.inj hget, encodeTree] at hencode
      rw [← Except.ok.inj hencode, decode_encodeDate hwall] at hdecode
      rw [← Except.ok.inj (Prod.mk.inj hdecode).1]
    next hother =>
      rw [if_neg hother]
      exact ih (fun g hg => hk g (List.mem_cons_of_mem _ hg)) hget

theorem get?_of_getD_date {fs : Fields} {name : String} {m : Moment}
    (h : Fields.getD fs name = .date m)
    : Fields.get? fs (.text name) = some (.date m) := by
  unfold Fields.getD at h
  cases hv : Fields.get? fs (.text name) with
  | none =>
    rw [hv] at h
    cases h
  | some v =>
    rw [hv] at h
    rw [← h]
    rfl

theorem getD_decode {fs gs : Fields} {j : Json} {ids ids' : IdSupply} (hfs : fs.IsStored)
    (hj : encodeTree layout (.object fs) = .ok j) (h : decode j ids = (.ok (.object gs), ids'))
    {name : String} {wall : Int} (hwall : IsWhole wall)
    (hget : Fields.getD fs name = .date (.utc wall))
    : Fields.getD gs name = .date (.utc wall) := by
  rw [encodeTree] at hj
  obtain ⟨ms, hms, rfl⟩ := map_ok hj
  rw [decode] at h
  obtain ⟨es, ids₁, hes, h⟩ := of_bind_ok h
  have hkeys := keys_decodeMembers hfs.keyed.keys hms hes
  have hkeyed : es.IsKeyed := hfs.keyed.congr hkeys
  -- what is decoded to an object again is the entries themselves
  have hstored : AreEntries es := by
    refine decodeMembers_ensures (fun m hm => ?_) _ _ _ hes
    obtain ⟨f, hf, _, hfm⟩ := exists_left_of_forall₂ (encodeFields_forall₂ hms) hm
    exact decode_reads (encodeTree_isShort (hfs.values f hf) hfm)
  have hread := decodeObject_ensures hstored.ofList _ _ _ h
  rw [hkeyed.ofList_eq] at hread
  cases hread with
  | inl he =>
    cases he.1
    rw [Fields.getD, get?_decodeMembers hfs.keyed.keys hms hes hwall (get?_of_getD_date hget)]
    rfl
  | inr hleaf => exact absurd rfl (hleaf.2 gs)

theorem hasTimes_decode {fs gs : Fields} {j : Json} {ids ids' : IdSupply} (hfs : fs.IsStored)
    (hj : encodeTree layout (.object fs) = .ok j) (h : decode j ids = (.ok (.object gs), ids'))
    {created updated : Int} (htimes : Document.HasTimes fs created updated)
    : Document.HasTimes gs created updated where
  createdField := getD_decode hfs hj h htimes.wholeCreated htimes.createdField
  updatedField := getD_decode hfs hj h htimes.wholeUpdated htimes.updatedField
  wholeCreated := htimes.wholeCreated
  wholeUpdated := htimes.wholeUpdated
  ordered := htimes.ordered

end Extended

namespace Collection

open Document Extended

def KeepsTimes (doc doc' : Fields) : Prop :=
  ∀ created updated, HasTimes doc created updated → HasTimes doc' created updated

theorem keepsTimes_decodeItems {layout : Layout} {docs docs' : List Fields} {js : List Json}
    {ids ids' : IdSupply} (hstored : ∀ d ∈ docs, d.IsStored)
    (hjs : encodeTrees layout (docs.map .object) = .ok js)
    (h : decodeItems js ids = (.ok (docs'.map .object), ids'))
    : List.Forall₂ KeepsTimes docs docs' := by
  have hread := forall₂_comp (encodeTrees_forall₂ hjs) (decodeItems_forall₂ h)
  rw [List.forall₂_map_left_iff, List.forall₂_map_right_iff] at hread
  refine forall₂_of_mem ?_ hread
  rintro doc hdoc doc' _ ⟨j, hj, ids₁, ids₂, hv⟩ created updated
  exact hasTimes_decode (hstored doc hdoc) hj hv

theorem ofText_keepsTimes {path : String} {docs docs' : List Fields} {s : List Char}
    {ids ids' : IdSupply} (hstored : ∀ d ∈ docs, d.IsStored) (hs : textOf docs = .ok s)
    (h : ofText path (Content.unifyLines s) ids = (.ok docs', ids'))
    : List.Forall₂ KeepsTimes docs docs' := by
  obtain ⟨js, hjs, hread, hblank⟩ := read_textOf hstored hs
  unfold ofText at h
  rw [hblank] at h
  split at h
  . contradiction
  . split at h
    next hl =>
      split at h
      next hdocs =>
        cases h
        obtain ⟨j, hj, hd⟩ := load_ok hl
        rw [hread] at hj
        cases hj
        rw [documentsOf?_ok hdocs, decode] at hd
        obtain ⟨vs, ids₁, hvs, hd⟩ := of_bind_ok hd
        cases hd
        exact keepsTimes_decodeItems hstored hjs hvs
      . cases h
    . cases h
    . cases h

theorem forall_isTimed_of_keepsTimes {docs docs' : List Fields}
    (h : List.Forall₂ KeepsTimes docs docs')
    (hdocs : ∀ d ∈ docs, IsTimed d) : ∀ d ∈ docs', IsTimed d := by
  induction h with
  | nil => exact hdocs
  | @cons doc doc' docs docs' hkeeps _ ih =>
    intro d hd
    rw [List.mem_cons] at hd
    cases hd with
    | inl hd =>
      obtain ⟨created, updated, htimes⟩ := hdocs doc (List.mem_cons_self ..)
      rw [hd]
      exact ⟨created, updated, hkeeps created updated htimes⟩
    | inr hd => exact ih (fun e he => hdocs e (List.mem_cons_of_mem _ he)) d hd

end Collection

end DocStore
