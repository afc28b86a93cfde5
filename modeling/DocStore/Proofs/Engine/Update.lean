import DocStore.Proofs.Engine.Selection
import DocStore.Proofs.Engine.Upsert
import DocStore.Proofs.Query.Digits

/-!
This module contains the proof that to update one document by its identifier is to update those of
which the query for the identifier holds. Only the second name of an identifier is treated unlike:
to update one document drops it from the patch, to update many stores it.
-/

namespace DocStore

open Work

namespace Collection

def idQuery (id : Value) : Value := .object [(.text Document.idField, id)]

theorem isMatch_idQuery {id : Value} (hid : ∀ fs, id ≠ .object fs) (doc : Fields)
    : isMatch (.object doc) (idQuery id) = .ok (valuesEqual (idOf doc) id) := by
  unfold idQuery
  rw [isMatch_singleton]
  refine (fieldHolds_id doc id).trans ?_
  unfold conditionHolds
  split
  next fs => exact absurd rfl (hid fs)
  . rfl

def AreApart (id : Value) (docs : List Fields) : Prop :=
  docs.Pairwise fun d d' => valuesEqual (idOf d) id = true → valuesEqual (idOf d') id = false

theorem HaveUniqueIds.areApart {docs : List Fields} (hunique : HaveUniqueIds docs)
    (hstored : ∀ d ∈ docs, d.IsStored)
    (id : Value) : AreApart id docs := by
  unfold HaveUniqueIds at hunique
  rw [List.pairwise_map] at hunique
  refine hunique.imp_of_mem fun {d d'} hd hd' hne hid => ?_
  cases hid' : valuesEqual (idOf d') id with
  | false => rfl
  | true =>
    have heq : valuesEqual (idOf d) (idOf d') = true :=
      valuesEqual_euclid ((hstored d hd).getD _) ((hstored d' hd').getD _) hid hid'
    rw [hne.1] at heq
    cases heq

theorem AreApart.tail {id : Value} {doc : Fields} {docs : List Fields}
    (h : AreApart id (doc :: docs))
    : AreApart id docs := (List.pairwise_cons.mp h).2

theorem indexOf?_cons (id : Value) (doc : Fields) (docs : List Fields)
    : indexOf? (doc :: docs) id.normalizeId
      = if valuesEqual (idOf doc) id = true then some 0
        else (indexOf? docs id.normalizeId).map (· + 1) := by
  unfold indexOf?
  rw [List.findIdx?_cons, valuesEqual_normalizeId]
  rfl

theorem mergeMatching_none {query patch : Value} {now : Moment} {docs : List Fields}
    (h : ∀ d ∈ docs, isMatch (.object d) query = .ok false)
    : mergeMatching query patch now docs = (.ok 0, docs) := by
  induction docs with
  | nil => rfl
  | cons doc docs ih =>
    rw [mergeMatching_unmatched (h doc (List.mem_cons_self ..)), ih fun d hd =>
      h d (List.mem_cons_of_mem _ hd)]

end Collection

def Effect.behind (doc : Fields) (f : Effect) : Effect := { f with documents := doc :: f.documents }

namespace Mutation

open Collection

section

variable {now : Moment} {collection : String} {ids : IdSupply} {id patch : Value} {doc : Fields}
  {docs : List Fields}

theorem changeEffect_behind (index : Nat)
    : changeEffect (doc :: docs) ids (index + 1) patch now =
      (changeEffect docs ids index patch now).behind doc := by
  unfold changeEffect
  rw [List.getElem?_cons_succ]
  cases docs[index]? with
  | none => rfl
  | some d =>
    dsimp only
    cases merge d patch now <;> rfl

theorem effect_update_behind (h : valuesEqual (idOf doc) id = false)
    : effect now collection (doc :: docs) ids (.update id.normalizeId patch)
      = (effect now collection docs ids (.update id.normalizeId patch)).behind doc := by
  unfold effect
  dsimp only
  rw [indexOf?_cons, h, if_neg Bool.false_ne_true]
  cases indexOf? docs id.normalizeId with
  | none => rfl
  | some index => exact changeEffect_behind index

theorem effect_updateMany_behind {query : Value} (h : isMatch (.object doc) query = .ok false)
    : effect now collection (doc :: docs) ids (.updateMany query patch)
      = (effect now collection docs ids (.updateMany query patch)).behind doc := by
  unfold effect
  dsimp only
  rw [mergeMatching_unmatched h]
  rcases mergeMatching query patch now docs with ⟨r, docs'⟩
  cases r <;> rfl

theorem effect_updateMany_eq (hid : ∀ fs, id ≠ .object fs) (hapart : AreApart id docs)
    : effect now collection docs ids (.updateMany (idQuery id) patch)
      = effect now collection docs ids (.update id.normalizeId patch) := by
  induction docs with
  | nil => rfl
  | cons doc docs ih =>
    have hmatch := isMatch_idQuery hid doc
    cases hdoc : valuesEqual (idOf doc) id with
    | false =>
      rw [hdoc] at hmatch
      rw [effect_updateMany_behind hmatch, effect_update_behind hdoc, ih hapart.tail]
    | true =>
      rw [hdoc] at hmatch
      have hrest : ∀ d ∈ docs, isMatch (.object d) (idQuery id) = .ok false := by
        intro d hd
        rw [isMatch_idQuery hid, (List.pairwise_cons.mp hapart).1 d hd hdoc]
      unfold effect changeEffect
      dsimp only
      rw [indexOf?_cons, hdoc, if_pos rfl]
      dsimp only
      rw [List.getElem?_cons_zero]
      cases hmerge : merge doc patch now with
      | error err =>
        rw [mergeMatching_unmerged hmatch hmerge]
        dsimp only
        rw [hmerge]
      | ok merged =>
        rw [mergeMatching_merged hmatch hmerge, mergeMatching_none hrest]
        dsimp only
        rw [hmerge]
        rfl

end

end Mutation

namespace Fields

theorem erase_insert (fs : Fields) (s : String) (v : Value)
    : (fs.insert (.text s) v).erase (.text s) = fs.erase (.text s) := by
  unfold insert erase
  split
  . have hnames : ((fun f : Value × Value => !f.1.equals (.text s))
        ∘ fun f => if f.1.equals (.text s) = true then (f.1, v)
        else f) = fun f => !f.1.equals (.text s) := by
      funext f
      dsimp only [Function.comp_apply]
      split <;> rfl
    rw [List.filter_map, hnames]
    refine (List.map_congr_left fun f hf => ?_).trans (List.map_id _)
    rw [List.mem_filter] at hf
    rw [if_neg (by simpa using hf.2)]
    rfl
  . rw [List.filter_append]
    simp [Value.equals]

end Fields

namespace Extended

theorem normalForm_isSome_get? {fs gs : Fields} {ids ids' : IdSupply} {s : String}
    (h : normalForm (.object fs) ids = (.ok (.object gs), ids')) (hs : markLetter ∈ s.toList)
    : (gs.get? (.text s)).isSome ↔ (fs.get? (.text s)).isSome := by
  rw [Option.isSome_iff_exists, Option.isSome_iff_exists, Fields.exists_get?_iff,
    Fields.exists_get?_iff, List.mem_map, List.mem_map]
  constructor
  . rintro ⟨g, hg, hkey⟩
    exact normalForm_key h hs hg hkey
  . rintro ⟨f, hf, hkey⟩
    obtain ⟨ms, es, ids₁, hms, hes, rfl⟩ := normalForm_object h
    obtain ⟨m, hm, hname, _⟩ := exists_right_of_forall₂ (encodeFields_forall₂ hms) hf
    obtain ⟨e, he, hem, _⟩ := exists_right_of_forall₂ (decodeMembers_forall₂ hes) hm
    rw [hkey, encodeKey] at hname
    have hkeys : ∀ e ∈ es, ∃ s, e.1 = .text s := by
      intro e he
      obtain ⟨m, _, hem, _⟩ := exists_left_of_forall₂ (decodeMembers_forall₂ hes) he
      exact ⟨_, hem⟩
    rw [← List.mem_map]
    refine Fields.mem_keys_merge_of_mem hkeys (.inr (List.mem_map.mpr ⟨e, he, ?_⟩))
    rw [hem, ← Except.ok.inj hname, Value.ofText, String.ofList_toList]

end Extended

namespace Document

theorem splitId_insert (fs : Fields) {id : Value} (hid : id ≠ .null)
    : splitId (fs.insert (.text idField) id)
      = (id, Fields.erase (Fields.erase fs (.text idField)) (.text "id")) := by
  unfold splitId
  dsimp only
  rw [Fields.getD_insert_self, Fields.erase_insert]
  cases id with
  | null => exact absurd rfl hid
  | _ => rfl

theorem stripStoreFields_erase (fs : Fields)
    : stripStoreFields (Fields.erase (Fields.erase fs (.text idField)) (.text "id"))
      = stripStoreFields (Fields.erase fs (.text "id")) := by
  unfold stripStoreFields Fields.erase
  rw [List.filter_filter, List.filter_filter, List.filter_filter]
  refine List.filter_congr fun f _ => ?_
  cases h : f.1.equals (.text idField) <;> simp [storeFields, h]

end Document

namespace Collection

open Document

/--
A document that fields were merged into keeps its identifier and the time of its creation, and has
the time of the change. The second name of an identifier is a name like others.
-/
structure KeepsStoreFields (now : Moment) (gs doc doc' : Fields) : Prop where
  id : doc'.get? (.text idField) = doc.get? (.text idField)
  created : doc'.get? (.text createdAt) = doc.get? (.text createdAt)
  updated : doc'.get? (.text updatedAt) = some (.date (timeOfChange doc now))
  second : doc'.get? (.text "id") = (gs.get? (.text "id")).or (doc.get? (.text "id"))

inductive IsUpdated (now : Moment) (id patch : Value) (doc : Fields) : Fields → Prop where
  | merged {gs doc'} (hpatch : patch = .object gs) (found : valuesEqual (idOf doc) id = true)
      (keeps : KeepsStoreFields now gs doc doc') : IsUpdated now id patch doc doc'
  | left (h : (∀ gs, patch ≠ .object gs) ∨ valuesEqual (idOf doc) id = false) :
      IsUpdated now id patch doc doc

section

variable {now : Moment} {id patch : Value} {gs doc : Fields}

theorem patched_keeps (hpatch : IsPatch (.object gs)) (doc : Fields) (now : Moment)
    : KeepsStoreFields now gs doc (patched doc gs now) := by
  have hpatched : IsPatched gs doc (patched doc gs now) :=
    merge_isPatched hpatch (merge_eq_patched ..)
  have hforeign : ∀ name ∈ storeFields, gs.get? (.text name) = none := by
    intro name hname
    rw [Fields.get?_eq_none]
    exact fun f hf => hpatch.foreign gs rfl f hf name hname
  refine ⟨hpatched.kept _ (hforeign _ (by decide)) (by decide),
    hpatched.kept _ (hforeign _ (by decide)) (by decide),
    ?_, ?_⟩
  . unfold patched
    rw [Fields.get?_insert_self]
  . cases hid : gs.get? (.text "id") with
    | none => exact hpatched.kept _ hid (by decide)
    | some v => exact hpatched.given _ _ hid

theorem isUpdated_refl (h : ∀ gs, patch ≠ .object gs) (docs : List Fields)
    : List.Forall₂ (IsUpdated now id patch) docs docs := by
  induction docs with
  | nil => exact .nil
  | cons doc docs ih => exact .cons (.left (.inl h)) ih

theorem mergeMatching_isUpdated (hpatch : IsPatch patch) (hid : ∀ fs, id ≠ .object fs)
    (docs : List Fields)
    : List.Forall₂ (IsUpdated now id patch) docs (mergeMatching (idQuery id) patch now docs).2 := by
  induction docs with
  | nil => exact .nil
  | cons doc docs ih =>
    have hmatch := isMatch_idQuery hid doc
    cases hdoc : valuesEqual (idOf doc) id with
    | false =>
      rw [hdoc] at hmatch
      rw [mergeMatching_unmatched hmatch]
      exact .cons (.left (.inr hdoc)) ih
    | true =>
      rw [hdoc] at hmatch
      cases hmerge : merge doc patch now with
      | error err =>
        rw [mergeMatching_unmerged hmatch hmerge]
        refine isUpdated_refl (fun gs hgs => ?_) _
        rw [hgs, merge_eq_patched] at hmerge
        cases hmerge
      | ok merged =>
        obtain ⟨gs, rfl, _⟩ := merge_ok hmerge
        rw [merge_eq_patched] at hmerge
        cases hmerge
        rw [mergeMatching_merged hmatch (merge_eq_patched ..)]
        exact .cons (.merged rfl hdoc (patched_keeps hpatch doc now)) ih

end

end Collection

namespace Engine

open Collection

def OpensUnique (e : Engine) (name : Value) : Prop :=
  ∀ ids i e₁, collection name { e with ids } = (.ok i, e₁) → HaveUniqueIds (e₁.store i).documents

section

variable {e : Engine} {name id : Value} {now : Moment}

theorem begin_updateOne_eq (hid : id ≠ .null) (fs : Fields) (e : Engine)
    : begin (.call (.updateOne name (.object (fs.insert (.text Document.idField) id)))) e
      = (patchOf (.object (Fields.erase fs (.text "id"))) >>= fun p =>
        mutation name (.update id.normalizeId p)) e := by
  have hpatch : patchOf
    (.object (Fields.erase (Fields.erase fs (.text Document.idField)) (.text "id")))
      = patchOf (.object (Fields.erase fs (.text "id"))) := by
    unfold patchOf
    dsimp only
    rw [Document.stripStoreFields_erase]
  rw [← hpatch]
  rw [begin_call]
  dsimp only [beginCall]
  have hfields : Document.fieldsOf (.object (fs.insert (.text Document.idField) id))
      = .ok (fs.insert (.text Document.idField) id) := rfl
  rw [hfields]
  dsimp only [Except.mapError]
  rw [lift_ok_bind, Document.splitId_insert fs hid]
  cases id with
  | null => exact absurd rfl hid
  | _ => rfl

theorem takeTurn_congr {i : Nat} {m m' : Mutation} (h : effectAt e now i m = effectAt e now i m')
    : takeTurn now i (.mutate m) e = takeTurn now i (.mutate m') e := by
  unfold takeTurn
  dsimp only
  rw [Mutation.execute_eq, Mutation.execute_eq]
  unfold effectAt at h
  dsimp only
  rw [h]

theorem run_of_effect {q q' : Request} {x : Action Value} {m m' : Value → Mutation}
    (hq : begin q e = (x >>= fun p => mutation name (m p)) e)
    (hq' : begin q' e = (x >>= fun p => mutation name (m' p)) e)
    (heffect : ∀ p e₁ i e₂, x e = (.ok p, e₁) → collection name e₁ = (.ok i, e₂) →
      effectAt e₂ now i (m p) = effectAt e₂ now i (m' p))
    : run now q e = run now q' e := by
  rcases hx : x e with ⟨r, e₁⟩
  cases r with
  | error err =>
    rw [bind_error hx] at hq hq'
    rw [run_error hq, run_error hq']
  | ok p =>
    rw [bind_ok hx] at hq hq'
    rcases hopen : collection name e₁ with ⟨r, e₂⟩
    cases r with
    | error err =>
      have hrefused : ∀ m, mutation name m e₁ = (.error err, e₂) := fun m => bind_error hopen
      rw [hrefused] at hq hq'
      rw [run_error hq, run_error hq']
    | ok i =>
      have hwaits : ∀ m, mutation name m e₁ = (.ok (.waits i (.mutate m)), e₂) :=
        fun m => bind_ok hopen
      rw [hwaits] at hq hq'
      rw [run_waits hq, run_waits hq', takeTurn_congr (heffect p e₁ i e₂ hx hopen)]

theorem run_updateOne_eq (he : e.Sound) (hunique : e.OpensUnique name) (hnull : id ≠ .null)
    (hid : ∀ fs, id ≠ .object fs) (fs : Fields)
    : run now (.call (.updateOne name (.object (fs.insert (.text Document.idField) id)))) e
      = run now (.call (.updateMany name (idQuery id) (.object (Fields.erase fs (.text "id")))))
        e := by
  refine run_of_effect (begin_updateOne_eq hnull fs e) rfl fun p e₁ i e₂ hpatch hopen => ?_
  obtain ⟨_, ids, _, rfl, _⟩ := patchOf_ok hpatch
  have hsound : e₂.Sound := by
    have hids : ({ e with ids } : Engine).Sound := he.congr rfl (.refl _)
    exact hids.opens (collection_opens hopen).1
  exact (Mutation.effect_updateMany_eq hid
    ((hunique ids i e₂ hopen).areApart (hsound.documents i) id)).symm

theorem run_updateMany_isUpdated (he : e.Sound) (clock : Clock) (hid : ∀ fs, id ≠ .object fs)
    {fs : Fields} {i : Nat} {t : Turn} {e₁ : Engine}
    (hbegin : begin (.call (.updateMany name (idQuery id) (.object fs))) e = (.ok (.waits i t), e₁))
    : ∃ p ids, Extended.normalForm (.object (Document.stripStoreFields fs)) e.ids = (.ok p, ids)
        ∧ List.Forall₂ (IsUpdated clock.now id p) (e₁.store i).documents
          ((run clock.now (.call (.updateMany name (idQuery id) (.object fs))) e).2.store
            i).documents := by
  have hsound : e₁.Sound := by
    have h := he.begin (.call (.updateMany name (idQuery id) (.object fs)))
    rwa [hbegin] at h
  have hcall := hbegin
  rw [begin_call] at hcall
  rcases bind_cases hcall with ⟨err, _, hr⟩ | ⟨p, e', hpatch, hmutation⟩
  . cases hr
  . obtain ⟨fs', ids, hfs, rfl, hnormal⟩ := patchOf_ok hpatch
    cases hfs
    rcases bind_cases hmutation with ⟨err, _, hr⟩ | ⟨j, e₂, hopen, hwaits⟩
    . cases hr
    . cases hwaits
      obtain ⟨_, hplace⟩ := collection_opens hopen
      refine ⟨p, ids, hnormal, ?_⟩
      have hdocs := run_mutation_documents clock hbegin (hsound.lt_of_place (hplace i rfl))
      rw [hdocs, effectAt_updateMany]
      exact mergeMatching_isUpdated (Document.normalForm_isPatch hnormal) hid _

theorem begin_alike {x : Action Value} {m : Value → Mutation} (m' : Value → Mutation) {i : Nat}
    {t : Turn} {e₁ : Engine} (h : (x >>= fun p => mutation name (m p)) e = (.ok (.waits i t), e₁))
    : ∃ t', (x >>= fun p => mutation name (m' p)) e = (.ok (.waits i t'), e₁) := by
  rcases bind_cases h with ⟨err, _, hr⟩ | ⟨p, e', hx, hmutation⟩
  . cases hr
  . rcases bind_cases hmutation with ⟨err, _, hr⟩ | ⟨j, e₂, hopen, hwaits⟩
    . cases hr
    . cases hwaits
      exact ⟨.mutate (m' p), (bind_ok hx).trans (bind_ok hopen)⟩

end

def Merges (e : Engine) (q : Request) (clock : Clock) (id : Value) (fs : Fields) : Prop :=
  ∀ i t e₁, begin q e = (.ok (.waits i t), e₁) →
    ∃ p ids, Extended.normalForm (.object (Document.stripStoreFields fs)) e.ids = (.ok p, ids)
      ∧ List.Forall₂ (IsUpdated clock.now id p) (e₁.store i).documents
        ((run clock.now q e).2.store i).documents
      ∧ ∀ gs : Fields, p = .object gs →
        ((gs.get? (.text "id")).isSome ↔ (fs.get? (.text "id")).isSome)

def updateOneOf (name id : Value) (fs : Fields) : Request :=
  .call (.updateOne name (.object (fs.insert (.text Document.idField) id)))

def updateManyOf (name id : Value) (fs : Fields) : Request :=
  .call (.updateMany name (idQuery id) (.object fs))

structure UpdatesAlike (e : Engine) (name id : Value) (fs : Fields) (clock : Clock) : Prop where
  /--
  Both answer the same and leave the same engine and directory, if the patch does not have the
  second name.
  -/
  alike : fs.get? (.text "id") = none →
    run clock.now (updateOneOf name id fs) e = run clock.now (updateManyOf name id fs) e
  /-- If it does, the value under it is dropped where one document is updated, -/
  drops : run clock.now (updateOneOf name id fs) e
    = run clock.now (updateManyOf name id (Fields.erase fs (.text "id"))) e
  one : Merges e (updateOneOf name id fs) clock id (Fields.erase fs (.text "id"))
  /-- and stored where many are updated. -/
  many : Merges e (updateManyOf name id fs) clock id fs

theorem updateMany_merges {e : Engine} (he : e.Sound) (name : Value) {id : Value}
    (hid : ∀ fs, id ≠ .object fs)
    (fs : Fields) (clock : Clock) : Merges e (updateManyOf name id fs) clock id fs := by
  intro i t e₁ hbegin
  obtain ⟨p, ids, hnormal, hall⟩ := run_updateMany_isUpdated he clock hid hbegin
  refine ⟨p, ids, hnormal, hall, ?_⟩
  rintro gs rfl
  rw [Extended.normalForm_isSome_get? hnormal (by decide), get?_stripStoreFields (by decide)]

/--
In every reachable state, if the collection has unequal identifiers, to update one document by an
identifier and to update those of the query for this identifier come to the same for every patch,
but for the second name of an identifier. No other field of the store is taken from the patch by
either of them.
-/
theorem updates_alike {e : Engine} (he : e.Reachable) {name : Value} (hunique : e.OpensUnique name)
    {id : Value} (hnull : id ≠ .null) (hid : ∀ fs, id ≠ .object fs) (fs : Fields) (clock : Clock)
    : UpdatesAlike e name id fs clock := by
  have hrun : run clock.now (updateOneOf name id fs) e
      = run clock.now (updateManyOf name id (Fields.erase fs (.text "id"))) e :=
    run_updateOne_eq he.sound hunique hnull hid fs
  refine ⟨?_, hrun, ?_, updateMany_merges he.sound name hid fs clock⟩
  . intro hnone
    have hfs : Fields.erase fs (.text "id") = fs := by
      rw [Fields.get?_eq_none] at hnone
      unfold Fields.erase
      rw [List.filter_eq_self]
      intro f hf
      rw [Bool.not_eq_true', Bool.eq_false_iff, Ne, Value.equals_text]
      exact hnone f hf
    rw [hrun, hfs]
  . intro i t e₁ hbegin
    rw [hrun]
    have hcall : begin (updateOneOf name id fs) e = _ := begin_updateOne_eq hnull fs e
    rw [hcall] at hbegin
    obtain ⟨t', hbegin'⟩ := begin_alike (.updateMany (idQuery id)) hbegin
    exact updateMany_merges he.sound name hid (Fields.erase fs (.text "id")) clock i t' e₁ hbegin'

theorem opensUnique_of_place {e : Engine} {name : Value} {i : Nat} (h : IsPlaceOf e name i)
    (hunique : HaveUniqueIds (e.store i).documents) : e.OpensUnique name := by
  intro ids j e₁ hopen
  rw [collection_of_place (h.congr rfl : IsPlaceOf { e with ids } name i)] at hopen
  cases hopen
  exact hunique

theorem pairEngine_opensUnique : pairEngine.OpensUnique (.text "c") := by
  refine opensUnique_of_place (i := 0) ⟨"c", rfl, by decide +kernel⟩ ?_
  unfold HaveUniqueIds AreUnequal
  decide +kernel

theorem updates_alike_pair
    : let fs : Fields := [(.text "createdAt", .int 0), (.text "t", .text "z")]
      run Clock.epoch.now (updateOneOf (.text "c") (.text "2") fs) pairEngine
        = run Clock.epoch.now (updateManyOf (.text "c") (.text "2") fs) pairEngine :=
  have hnull : Value.text "2" ≠ .null := nofun
  (updates_alike pairEngine_reachable pairEngine_opensUnique hnull nofun _ .epoch).alike
    (by decide +kernel)

theorem updates_not_alike
    : let fs : Fields := [(.text "id", .text "3")]
      let renamed (q : Request) : List Bool :=
        ((run Clock.epoch.now q pairEngine).2.documentsOf "c").map fun d =>
        valuesEqual (d.getD "id") (.text "3")
      renamed (updateOneOf (.text "c") (.text "2") fs) = [false, false]
        ∧ renamed (updateManyOf (.text "c") (.text "2") fs) = [false, true] :=
  ⟨by decide +kernel, by decide +kernel⟩

end Engine

end DocStore
