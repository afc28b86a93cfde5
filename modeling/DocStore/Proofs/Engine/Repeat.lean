import DocStore.Proofs.Engine.Reread
import DocStore.Proofs.Engine.Upsert
import DocStore.Proofs.Extended.Steady

/-!
This module contains what comes of an upsert that is done a second time: it finds the document that
the first one has written, and leaves it as it is but for the time of the change, unless the
document was stored in another form than the one that is searched for.
-/

namespace DocStore

open Work

namespace Collection

open Document

def HasAlready (gs doc : Fields) : Prop :=
  ∀ s v, Fields.get? gs (.text s) = some v → ∃ w, Fields.get? doc (.text s) = some w ∧
    v.alike w = true

structure IsSameButTime (doc doc' : Fields) : Prop where
  keys : doc'.map (·.1) = doc.map (·.1)
  values : ∀ s ≠ updatedAt, ∀ v, Fields.get? doc' (.text s) = some v →
    ∃ w, Fields.get? doc (.text s) = some w ∧ v.alike w = true

/--
An upsert has changed a document, and has left all documents as they are but for the time of its
change.
-/
structure IsQuiet (docs : List Fields) (r : Except Error Answer) (docs' : List Fields) : Prop where
  answered : ∃ report, Engine.IsAnswered (.report report) r ∧ report.TellsUpdate (.int 1) (.int 1)
  documents : ∃ j doc doc', docs[j]? = some doc ∧ docs' = docs.set j doc' ∧ IsSameButTime doc doc'

section

variable {gs doc doc' : Fields} {now : Moment}

theorem IsSameButTime.refl (h : doc.IsStored) : IsSameButTime doc doc := by
  refine ⟨rfl, ?_⟩
  intro s _ v hv
  exact ⟨v, hv, (h.get hv).alike_refl⟩

theorem notMem_storeFields_of_patch (hp : IsPatch (.object gs)) {s : String} {v : Value}
    (hv : Fields.get? gs (.text s) = some v) : s ∉ storeFields := by
  intro hs
  obtain ⟨g, hg, hname, _⟩ := Fields.get?_mem hv
  exact hp.foreign gs rfl g hg s hs (Value.equals_text.mp hname)

theorem patched_isPatched (hp : IsPatch (.object gs)) (doc : Fields) (now : Moment)
    : IsPatched gs doc (patched doc gs now) := merge_isPatched hp (merge_eq_patched ..)

theorem keys_patched (hp : IsPatch (.object gs)) (htime : .text updatedAt ∈ doc.map (·.1))
    (h : HasAlready gs doc)
    : (patched doc gs now).map (·.1) = doc.map (·.1) := by
  have hkeyed : Fields.IsKeyed gs := (Fields.isStored_object.mp hp.stored).keyed
  have hsubset : gs.map (·.1) ⊆ doc.map (·.1) := by
    intro k hk
    obtain ⟨g, hg, rfl⟩ := List.mem_map.mp hk
    obtain ⟨s, hs⟩ := hkeyed.keys g hg
    obtain ⟨w, hw, _⟩ := h s g.2 (hkeyed.get?_of_mem hg hs)
    rw [hs]
    exact Fields.exists_get?_iff.mp ⟨w, hw⟩
  have hmerge := Fields.map_fst_merge_of_subset hkeyed hsubset
  rw [← hmerge] at htime
  obtain ⟨f, hf, hkey⟩ := List.mem_map.mp htime
  unfold patched
  rw [Fields.map_fst_insert_of_contains _ (Fields.contains_text.mpr ⟨f, hf, hkey⟩), hmerge]

theorem patched_isSame_iff (hp : IsPatch (.object gs)) (hdoc : doc.IsStored)
    (htime : .text updatedAt ∈ doc.map (·.1))
    : IsSameButTime doc (patched doc gs now) ↔ HasAlready gs doc := by
  have hpatched := patched_isPatched hp doc now
  constructor
  . intro h s v hv
    have hs : s ≠ updatedAt := by
      rintro rfl
      exact notMem_storeFields_of_patch hp hv (by decide)
    exact h.values s hs v (hpatched.given s v hv)
  . intro h
    refine ⟨keys_patched hp htime h, ?_⟩
    intro s hs v hv
    cases hget : Fields.get? gs (.text s) with
    | some u =>
      rw [hpatched.given s u hget] at hv
      cases hv
      exact h s _ hget
    | none =>
      rw [hpatched.kept s hget hs] at hv
      exact ⟨v, hv, (hdoc.get hv).alike_refl⟩

theorem patched_hasAlready (hp : IsPatch (.object gs)) (doc : Fields) (now : Moment)
    : HasAlready gs (patched doc gs now) := by
  intro s v hv
  have hstored := (Fields.isStored_object.mp hp.stored).get hv
  exact ⟨v, (patched_isPatched hp doc now).given s v hv, hstored.alike_refl⟩

theorem inserted_hasAlready_iff {written new : Fields} (hread : (Value.object written).IsRead)
    (h : IsInserted written new)
    : HasAlready (stripStoreFields written) new ↔
      (Value.object (stripStoreFields written)).isWhole = true := by
  have hp := stripStoreFields_isPatch hread
  have hpatch : Fields.AreRead (stripStoreFields written) := Fields.areRead_of_isRead hp.read
  have hnew : ∀ s v, Fields.get? (stripStoreFields written) (.text s) = some v →
      Fields.get? new (.text s) = some v.reread := by
    intro s v hv
    have hs := notMem_storeFields_of_patch hp hv
    rw [get?_stripStoreFields hs] at hv
    rw [h.given s hs, hv]
    rfl
  rw [Value.isWhole, Value.haveWhole_eq_all, List.all_eq_true]
  constructor
  . intro hready f hf
    obtain ⟨s, hs⟩ := hpatch.keyed.keys f hf
    have hv := hpatch.keyed.get?_of_mem hf hs
    obtain ⟨w, hw, halike⟩ := hready s f.2 hv
    rw [hnew s f.2 hv] at hw
    cases hw
    rwa [Value.alike_reread (hpatch.values f hf)] at halike
  . intro hwhole s v hv
    refine ⟨v.reread, hnew s v hv, ?_⟩
    obtain ⟨f, hf, _, rfl⟩ := Fields.get?_mem hv
    rw [Value.alike_reread (hpatch.values f hf)]
    exact hwhole f hf

end

section

variable {docs docs' : List Fields} {written doc new : Fields} {field : Option String} {j : Nat}
  {now : Moment}

theorem hasInField_storeField {s : String} (hs : s ∈ storeFields) (v : Value) (doc : Fields)
    : hasInField (.text s) v doc = valuesEqual (Fields.getD doc s) v := by
  have hplain : ∀ name ∈ storeFields, name.toList.contains '.' = false := by decide
  unfold hasInField
  rw [getField_plain (hplain s hs)]

theorem hasInField_of_get? {s : String} {w : Value} (h : Fields.get? doc (.text s) = some w)
    (v : Value)
    : hasInField (.text s) v doc = valuesEqual w v := by
  unfold hasInField getField
  dsimp only
  rw [if_neg (by simp [Value.isHashable]), h]

theorem valuesEqual_self_of_found {key v : Value} (hdoc : doc.IsStored) (hv : v.IsStored)
    (h : hasInField key v doc = true) : valuesEqual v v = true := by
  unfold hasInField at h
  split at h
  next w hw =>
    have hstored := getField_isStored hdoc hw
    exact valuesEqual_trans hv hstored hv (valuesEqual_symm hstored hv h) h
  . cases h

theorem hasField_patched (hread : (Value.object written).IsRead) (hdoc : doc.IsStored)
    (hpresent : ∀ s, field = some s → Fields.getD written s ≠ .null)
    (h : HasField written field doc) (htime : field ≠ some updatedAt)
    : HasField written field (patched doc (stripStoreFields written) now) := by
  obtain ⟨s, rfl, hs⟩ := h
  refine ⟨s, rfl, ?_⟩
  have hpatched := patched_isPatched (stripStoreFields_isPatch hread) doc now
  by_cases hstore : s ∈ storeFields
  . have hkept : Fields.get? (patched doc (stripStoreFields written) now) (.text s) =
        Fields.get? doc (.text s) := by
      apply hpatched.kept s
      . rw [Fields.get?_eq_none]
        exact fun f hf => (mem_stripStoreFields hf).2 s hstore
      . rintro rfl
        exact htime rfl
    rw [hasInField_storeField hstore] at hs ⊢
    unfold Fields.getD at hs ⊢
    rwa [hkept]
  . have hstored : (Fields.getD written s).IsStored :=
      (Fields.isStored_object.mp hread.isStored).getD _
    have hself := valuesEqual_self_of_found hdoc hstored hs
    have hget : Fields.get? (stripStoreFields written) (.text s) =
        some (Fields.getD written s) := by
      rw [get?_stripStoreFields hstore]
      exact Fields.get?_of_getD_ne (hpresent s rfl)
    rw [hasInField_of_get? (hpatched.given s _ hget)]
    exact hself

theorem placeById?_congr (h : docs'.map idOf = docs.map idOf) (fs : Fields)
    : placeById? docs' fs = placeById? docs fs := by
  have hmap : ∀ (ds : List Fields) (id : Value),
      (ds.findIdx? fun d => valuesEqual (idOf d) id) =
          (ds.map idOf).findIdx? fun v => valuesEqual v id := by
    intro ds id
    rw [List.findIdx?_map]
    rfl
  by_cases hid : Fields.getD fs idField = .null
  . unfold placeById?
    rw [hid]
    rfl
  . rw [placeById?_present docs' hid, placeById?_present docs hid, hmap, hmap, h]

theorem hasField_of_placeByField? (h : placeByField? docs written field = some j)
    (hj : docs[j]? = some doc)
    : HasField written field doc ∧ ∀ k d, k < j → docs[k]? = some d →
      ¬ HasField written field d := by
  unfold placeByField? at h
  cases field with
  | none => cases h
  | some s =>
    rw [Option.bind_some, List.findIdx?_eq_some_iff_getElem] at h
    obtain ⟨hlt, hfound, hfirst⟩ := h
    obtain ⟨_, rfl⟩ := List.getElem?_eq_some_iff.mp hj
    refine ⟨⟨s, rfl, hfound⟩, ?_⟩
    rintro k d hk hd ⟨_, hs, hother⟩
    cases hs
    obtain ⟨_, rfl⟩ := List.getElem?_eq_some_iff.mp hd
    exact hfirst k hk hother

theorem upsertIndex?_set {doc' : Fields} (hindex : upsertIndex? docs written (keyOf field) = some j)
    (hj : docs[j]? = some doc) (hid : idOf doc' = idOf doc)
    (hfield : ¬ HasId written doc → HasField written field doc → HasField written field doc')
    : upsertIndex? (docs.set j doc') written (keyOf field) = some j := by
  have hids : (docs.set j doc').map idOf = docs.map idOf := by
    obtain ⟨hlt, rfl⟩ := List.getElem?_eq_some_iff.mp hj
    rw [List.map_set, hid, ← List.getElem_map idOf (h := by simpa using hlt), List.set_getElem_self]
  rw [upsertIndex?_eq] at hindex ⊢
  rw [placeById?_congr hids]
  rcases Option.or_eq_some_iff.mp hindex with hbyId | ⟨hnone, hbyField⟩
  . rw [hbyId]
    rfl
  . rw [hnone, Option.none_or]
    obtain ⟨hdoc, hfirst⟩ := hasField_of_placeByField? hbyField hj
    have hnoId := placeById?_eq_none_iff.mp hnone doc (List.mem_of_getElem? hj)
    refine placeByField?_of_hasField ?_ (hfield hnoId hdoc) ?_
    . rw [List.getElem?_set_self (List.getElem?_eq_some_iff.mp hj).1]
    . intro k d hk hd
      rw [List.getElem?_set_ne (by omega)] at hd
      exact hfirst k d hk hd

theorem upsertIndex?_append (hindex : upsertIndex? docs written (keyOf field) = none)
    (hnew : HasId written new ∨ HasField written field new)
    : upsertIndex? (docs ++ [new]) written (keyOf field) = some docs.length := by
  have hnone := upsertIndex?_eq_none_iff.mp hindex
  have hlast : (docs ++ [new])[docs.length]? = some new := by simp
  have hold : ∀ k d, k < docs.length → (docs ++ [new])[k]? = some d → d ∈ docs := by
    intro k d hk hd
    rw [List.getElem?_append_left hk] at hd
    exact List.mem_of_getElem? hd
  rw [upsertIndex?_eq]
  by_cases hid : HasId written new
  . rw [placeById?_of_hasId hlast hid fun k d hk hd => (hnone d (hold k d hk hd)).1]
    rfl
  . rw [placeById?_eq_none_iff.mpr, Option.none_or]
    . exact placeByField?_of_hasField hlast (hnew.resolve_left hid) fun k d hk hd =>
        (hnone d (hold k d hk hd)).2
    . intro d hd
      rw [List.mem_append, List.mem_singleton] at hd
      cases hd with
      | inl hd => exact (hnone d hd).1
      | inr hd =>
        rw [hd]
        exact hid

theorem upsertIndex?_append_none (hindex : upsertIndex? docs written (keyOf field) = none)
    (hnew : ¬ (HasId written new ∨ HasField written field new))
    : upsertIndex? (docs ++ [new]) written (keyOf field) = none := by
  rw [upsertIndex?_eq_none_iff] at hindex ⊢
  intro d hd
  rw [List.mem_append, List.mem_singleton] at hd
  cases hd with
  | inl hd => exact hindex d hd
  | inr hd =>
    rw [hd]
    exact not_or.mp hnew

structure IsLasting (v : Value) : Prop where
  whole : v.isWhole = true
  self : v.equals v = true

inductive IsFoundAgain (written : Fields) (field : Option String) (now : Moment) : Prop where
  | id (present : Fields.getD written idField ≠ .null)
      (lasting : IsLasting (Fields.getD written idField))
  | field {s} (named : field = some s) (other : s ∉ [createdAt, updatedAt])
      (lasting : IsLasting (Fields.getD written s))
  /-- What is given for a time is not stored, but may be the time of the creation. -/
  | time {s} (named : field = some s) (time : s ∈ [createdAt, updatedAt])
      (equal : valuesEqual (.date now) (Fields.getD written s) = true)

theorem isLasting_iff {v : Value} (hv : v.IsRead)
    : IsLasting v ↔ valuesEqual v.reread v = true := by
  rw [valuesEqual_reread hv, Bool.and_eq_true]
  exact ⟨fun h => ⟨h.whole, h.self⟩, fun h => ⟨h.1, h.2⟩⟩

theorem inserted_found_iff (hread : (Value.object written).IsRead) (hnew : IsInserted written new)
    (hpresent : ∀ s, field = some s → Fields.getD written s ≠ .null)
    (htimes : ∀ s ∈ [createdAt, updatedAt], Fields.getD new s = .date now)
    : HasId written new ∨ HasField written field new ↔ IsFoundAgain written field now := by
  have hvalues : ∀ s, (Fields.getD written s).IsRead :=
    fun s => (Fields.areRead_of_isRead hread).getD s
  -- a field of the store comes from the identifier or from the clock, any other is the given one
  -- read again
  have hid : Fields.getD written idField ≠ .null →
      (valuesEqual (idOf new) (Fields.getD written idField) = true ↔
          IsLasting (Fields.getD written idField)) := by
    intro hne
    rw [hnew.id hne, normalizeId_valuesEqual, isLasting_iff (hvalues _)]
  have hother : ∀ s, field = some s → s ∉ [createdAt, updatedAt] →
      (hasInField (.text s) (Fields.getD written s) new = true ↔
          IsLasting (Fields.getD written s)) := by
    intro s hs htime
    by_cases hstore : s = idField
    . subst hstore
      rw [hasInField_storeField (by decide)]
      exact hid (hpresent _ hs)
    . have hforeign : s ∉ storeFields := by
        intro hmem
        exact htime ((List.mem_cons.mp hmem).resolve_left hstore)
      have hget : Fields.get? new (.text s) = some (Fields.getD written s).reread := by
        rw [hnew.given s hforeign, Fields.get?_of_getD_ne (hpresent s hs)]
        rfl
      rw [hasInField_of_get? hget, isLasting_iff (hvalues _)]
  have htime : ∀ s ∈ [createdAt, updatedAt],
      hasInField (.text s) (Fields.getD written s) new =
          valuesEqual (.date now) (Fields.getD written s) := by
    intro s hs
    rw [hasInField_storeField (List.mem_cons_of_mem _ hs), htimes s hs]
  constructor
  . rintro (⟨hne, hequal⟩ | ⟨s, hs, hfound⟩)
    . exact .id hne ((hid hne).mp hequal)
    . by_cases hmem : s ∈ [createdAt, updatedAt]
      . rw [htime s hmem] at hfound
        exact .time hs hmem hfound
      . exact .field hs hmem ((hother s hs hmem).mp hfound)
  . intro h
    cases h with
    | id present lasting => exact .inl ⟨present, (hid present).mpr lasting⟩
    | field named other lasting => exact .inr ⟨_, named, (hother _ named other).mpr lasting⟩
    | time named hmem equal => exact .inr ⟨_, named, (htime _ hmem).trans equal⟩

theorem updatedAt_mem_keys_patched (doc gs : Fields) (now : Moment)
    : .text updatedAt ∈ (patched doc gs now).map (·.1) :=
  Fields.exists_get?_iff.mp ⟨_, Fields.get?_insert_self ..⟩

end

section

variable {docs docs' : List Fields} {r : Except Error Answer} {doc doc' : Fields} {j : Nat}

theorem not_isQuiet_of_length (h : docs'.length ≠ docs.length) : ¬ IsQuiet docs r docs' := by
  intro hquiet
  obtain ⟨_, _, _, _, hset, _⟩ := hquiet.documents
  rw [hset, List.length_set] at h
  exact h rfl

theorem not_isQuiet_of_refused (h : Engine.IsRefused r) : ¬ IsQuiet docs r docs' := by
  intro hquiet
  obtain ⟨_, hanswered, _⟩ := hquiet.answered
  exact hanswered.not_isRefused h

theorem isQuiet_set_iff (hr : Engine.IsAnswered (.report (Mutation.updated 1)) r)
    (hdoc : doc.IsStored)
    (hj : docs[j]? = some doc) : IsQuiet docs r (docs.set j doc') ↔ IsSameButTime doc doc' := by
  constructor
  . intro hquiet
    obtain ⟨k, d, d', hk, hset, hsame⟩ := hquiet.documents
    have hlt := (List.getElem?_eq_some_iff.mp hj).1
    have hget : (docs.set k d')[j]? = some doc' := by rw [← hset, List.getElem?_set_self hlt]
    by_cases hkj : k = j
    . subst hkj
      rw [hj] at hk
      rw [List.getElem?_set_self hlt] at hget
      cases hk
      cases hget
      exact hsame
    . rw [List.getElem?_set_ne hkj, hj] at hget
      cases hget
      exact .refl hdoc
  . intro hsame
    exact ⟨⟨_, hr, Report.updated_tells _ _⟩, ⟨j, doc, doc', hj, rfl, hsame⟩⟩

end

theorem newId_accuses (collection : String) (given : Value) (taken : List Value)
    : Accuses (newId collection given taken) (·.isOfFile = false) := by
  intro ids err ids' h
  unfold newId at h
  split at h
  . unfold generateId at h
    split at h
    . cases h
      rfl
    . split at h <;> cases h
      rfl
  . split at h
    . cases h
      rfl
    . split at h <;> cases h
      rfl

theorem newDocument_accuses (collection : String) (doc : Value) (taken : List Value) (now : Moment)
    : Accuses (newDocument collection doc taken now) (·.isOfFile = false) := by
  unfold newDocument
  split
  . refine accuses_bind (normalForm_accuses _) fun v => ?_
    split
    . exact accuses_bind (newId_accuses _ _ _) fun _ => accuses_pure
    . exact accuses_throw rfl
  . exact accuses_throw rfl

end Collection

namespace Engine

open Collection Document

section

variable {e e₁ e' : Engine} {name key : Value} {fs given written : Fields} {field : Option String}
  {i j : Nat}
variable {clock : Clock} {r : Except Error Answer}

theorem IsResolved.run_found (he : e.Sound) (h : IsResolved e name fs key given field written i e₁)
    (hindex : upsertIndex? (e₁.store i).documents written (keyOf field) = some j) {doc : Fields}
    (hj : (e₁.store i).documents[j]? = some doc) {e' : Engine}
    (hrun : Engine.run clock.now (.call (.upsertOne name (.object fs) key)) e = (r, e'))
    : IsAnswered (.report (Mutation.updated 1)) r
      ∧ (e'.store i).documents
        = (e₁.store i).documents.set j (patched doc (stripStoreFields written) clock.now) := by
  have hbegin := h.waits.begin
  have heffect : effectAt e₁ clock.now i (.upsert written (keyOf field)) = _ :=
    Mutation.effect_upsert_change hindex hj
  have hanswer := run_mutation_answer clock he hbegin (congrArg Effect.outcome heffect)
  have hdocuments := run_mutation_documents clock hbegin ((h.sound he).lt_of_place h.isPlaceOf)
  rw [hrun] at hanswer hdocuments
  rw [heffect] at hdocuments
  exact ⟨hanswer, hdocuments⟩

theorem IsResolved.run_unfound (he : e.Sound)
    (h : IsResolved e name fs key given field written i e₁)
    (hindex : upsertIndex? (e₁.store i).documents written (keyOf field) = none) {new : Fields}
    {ids : IdSupply}
    (hnew : newDocument (e₁.store i).name (.object written)
      (takenIds (e₁.store i).documents) clock.now e₁.ids
      = (.ok new, ids))
    (hrun : Engine.run clock.now (.call (.upsertOne name (.object fs) key)) e = (r, e'))
    : IsAnswered (.report (.upserted (idOf new))) r
      ∧ (e'.store i).documents = (e₁.store i).documents ++ [new] := by
  have hbegin := h.waits.begin
  have heffect : effectAt e₁ clock.now i (.upsert written (keyOf field)) = _ :=
    Mutation.effect_upsert_append hindex hnew
  have hanswer := run_mutation_answer clock he hbegin (congrArg Effect.outcome heffect)
  have hdocuments := run_mutation_documents clock hbegin ((h.sound he).lt_of_place h.isPlaceOf)
  rw [hrun] at hanswer hdocuments
  rw [heffect] at hdocuments
  exact ⟨hanswer, hdocuments⟩

theorem IsResolved.run_unfound_refused (h : IsResolved e name fs key given field written i e₁)
    (hindex : upsertIndex? (e₁.store i).documents written (keyOf field) = none) {err : Error}
    {ids : IdSupply}
    (hnew : newDocument (e₁.store i).name (.object written)
      (takenIds (e₁.store i).documents) clock.now e₁.ids
      = (.error err, ids))
    (hrun : Engine.run clock.now (.call (.upsertOne name (.object fs) key)) e = (r, e'))
    : r = .error err := by
  have hout : (effectAt e₁ clock.now i (.upsert written (keyOf field))).outcome = .error err := by
    unfold effectAt Mutation.effect
    dsimp only
    rw [hindex]
    exact appendEffect_outcome hnew
  have hrefused := (run_mutation_refused clock h.waits.begin hout).1
  rw [hrun] at hrefused
  exact hrefused

theorem IsResolved.not_isQuiet_of_unfound (he : e.Sound)
    (h : IsResolved e name fs key given field written i e₁)
    (hindex : upsertIndex? (e₁.store i).documents written (keyOf field) = none)
    (hrun : Engine.run clock.now (.call (.upsertOne name (.object fs) key)) e = (r, e'))
    : ¬ IsQuiet (e₁.store i).documents r (e'.store i).documents := by
  rcases hnew : newDocument (e₁.store i).name (.object written)
    (takenIds (e₁.store i).documents) clock.now e₁.ids
    with ⟨new, ids⟩
  cases new with
  | ok new =>
    apply not_isQuiet_of_length
    rw [(h.run_unfound he hindex hnew hrun).2, List.length_append, List.length_singleton]
    exact Nat.succ_ne_self _
  | error err =>
    apply not_isQuiet_of_refused
    rw [h.run_unfound_refused hindex hnew hrun]
    exact isRefused_error (newDocument_accuses _ _ _ _ _ _ _ hnew)

end

inductive DoneAgain (written : Fields) (field : Option String) (now : Moment)
    (docs docs' : List Fields)
    (r : Except Error Answer) (docs'' : List Fields) : Prop where
  | changed {j doc doc'} (found : docs[j]? = some doc) (after : docs' = docs.set j doc')
      (change : IsChanged written doc doc')
      (again : (field = some updatedAt → HasId written doc ∨ HasField written field doc') →
        IsQuiet docs' r docs'')
  | inserted {new} (after : docs' = docs ++ [new]) (insertion : IsInserted written new)
      (again : IsQuiet docs' r docs''
        ↔ IsFoundAgain written field now ∧ (Value.object (stripStoreFields written)).isWhole = true)

section

variable {e e₁ e' e'' : Engine} {name key : Value} {fs given written : Fields}
  {field : Option String} {i : Nat}
variable {clock clock' : Clock} {a : Answer} {r : Except Error Answer} {ids : IdSupply}

theorem IsResolved.isPlaceOf_run (h : IsResolved e name fs key given field written i e₁)
    (hrun : Engine.run clock.now (.call (.upsertOne name (.object fs) key)) e = (r, e'))
    : IsPlaceOf e' name i := by
  obtain ⟨n, hname, hlookup⟩ := h.isPlaceOf
  rw [run_waits h.waits.begin] at hrun
  cases hrun
  refine ⟨n, hname, ?_⟩
  change (takeTurn clock.now i (.mutate (.upsert written (keyOf field))) e₁).2.cached.lookup n =
    some i
  rw [takeTurn_mutate_cached]
  exact hlookup

theorem IsResolved.again (h : IsResolved e name fs key given field written i e₁)
    (hrun : Engine.run clock.now (.call (.upsertOne name (.object fs) key)) e = (r, e'))
    (hsame : Extended.normalForm (.object fs) e'.ids = (.ok (.object given), ids))
    : IsResolved e' name fs key given field written i { e' with ids } := by
  have hplace : IsPlaceOf { e' with ids } name i := (h.isPlaceOf_run hrun).congr rfl
  exact ⟨⟨ids, hsame, collection_of_place hplace⟩, h.designates⟩

theorem IsResolved.quiet_changed (he' : e'.Sound) (hread : (Value.object written).IsRead)
    (h' : IsResolved e' name fs key given field written i { e' with ids })
    (hrun' : Engine.run clock'.now (.call (.upsertOne name (.object fs) key)) e' = (r, e''))
    {docs : List Fields} (hstored : ∀ d ∈ docs, d.IsStored) {j : Nat} {doc : Fields}
    (hindex : upsertIndex? docs written (keyOf field) = some j) (hj : docs[j]? = some doc)
    (hafter
      : (e'.store i).documents = docs.set j (patched doc (stripStoreFields written) clock.now))
    (htime : field = some updatedAt → HasId written doc
      ∨ HasField written field (patched doc (stripStoreFields written) clock.now))
    : IsQuiet (e'.store i).documents r (e''.store i).documents := by
  have hpatch := stripStoreFields_isPatch hread
  have hpresent : ∀ s, field = some s → Fields.getD written s ≠ .null :=
    fun s => h'.designates.present
  have hindex' : upsertIndex? (e'.store i).documents written (keyOf field) = some j := by
    rw [hafter]
    apply upsertIndex?_set hindex hj (patched_isChanged hread doc clock.now).id
    intro hid hfield
    by_cases hfieldTime : field = some updatedAt
    . exact (htime hfieldTime).resolve_left hid
    . exact hasField_patched hread (hstored doc (List.mem_of_getElem? hj)) hpresent hfield
        hfieldTime
  have hj' : (e'.store i).documents[j]? =
      some (patched doc (stripStoreFields written) clock.now) := by
    rw [hafter, List.getElem?_set_self (List.getElem?_eq_some_iff.mp hj).1]
  have hdoc' := he'.documents i _ (List.mem_of_getElem? hj')
  obtain ⟨hanswer, hdocs'⟩ := h'.run_found he' hindex' hj' hrun'
  rw [hdocs']
  refine (isQuiet_set_iff hanswer hdoc' hj').mpr ?_
  rw [patched_isSame_iff hpatch hdoc' (updatedAt_mem_keys_patched ..)]
  exact patched_hasAlready hpatch doc clock.now

theorem IsResolved.quiet_inserted (he' : e'.Sound) (hread : (Value.object written).IsRead)
    (h' : IsResolved e' name fs key given field written i { e' with ids })
    (hrun' : Engine.run clock'.now (.call (.upsertOne name (.object fs) key)) e' = (r, e''))
    {docs : List Fields} {new : Fields} (hindex : upsertIndex? docs written (keyOf field) = none)
    (hafter : (e'.store i).documents = docs ++ [new]) (hnew : IsInserted written new)
    (htimes : ∀ s ∈ [createdAt, updatedAt], Fields.getD new s = .date clock.now)
    : IsQuiet (e'.store i).documents r (e''.store i).documents
      ↔ IsFoundAgain written field clock.now ∧ (Value.object (stripStoreFields written)).isWhole =
        true := by
  have hpatch := stripStoreFields_isPatch hread
  have hpresent : ∀ s, field = some s → Fields.getD written s ≠ .null :=
    fun s => h'.designates.present
  rw [← inserted_found_iff hread hnew hpresent htimes, ← inserted_hasAlready_iff hread hnew]
  by_cases hfound : HasId written new ∨ HasField written field new
  . have hindex' : upsertIndex? (e'.store i).documents written (keyOf field) =
        some docs.length := by
      rw [hafter]
      exact upsertIndex?_append hindex hfound
    have hj' : (e'.store i).documents[docs.length]? = some new := by simp [hafter]
    have hstored := he'.documents i _ (List.mem_of_getElem? hj')
    have htime : .text updatedAt ∈ new.map (·.1) := by
      apply Fields.exists_get?_iff.mp
      refine ⟨_, Fields.get?_of_getD_ne ?_⟩
      rw [htimes updatedAt (by decide)]
      nofun
    obtain ⟨hanswer, hdocs'⟩ := h'.run_found he' hindex' hj' hrun'
    change _ = (e'.store i).documents.set _ _ at hdocs'
    rw [hdocs', isQuiet_set_iff hanswer hstored hj', patched_isSame_iff hpatch hstored htime,
      and_iff_right hfound]
  . have hindex' : upsertIndex? (e'.store i).documents written (keyOf field) = none := by
      rw [hafter]
      exact upsertIndex?_append_none hindex hfound
    rw [iff_false_right (fun hboth => hfound hboth.1)]
    have hquiet := h'.not_isQuiet_of_unfound he' hindex' hrun'
    exact hquiet

theorem IsResolved.doneAgain (he : e.Sound) (h : IsResolved e name fs key given field written i e₁)
    (hrun : Engine.run clock.now (.call (.upsertOne name (.object fs) key)) e = (.ok a, e'))
    (h' : IsResolved e' name fs key given field written i { e' with ids })
    (hrun' : Engine.run clock'.now (.call (.upsertOne name (.object fs) key)) e' = (r, e''))
    : DoneAgain written field clock.now (e₁.store i).documents (e'.store i).documents r
      (e''.store i).documents := by
  have hread := h.written_isRead
  have he' := he.run hrun
  cases h.run he hrun with
  | @changed j doc hindex hj hafter =>
    refine .changed hj hafter (patched_isChanged hread doc clock.now) ?_
    exact h'.quiet_changed he' hread hrun' ((h.sound he).documents i) hindex hj hafter
  | @appended new _ hindex hnew hafter =>
    have hinserted := newDocument_isInserted hread hnew
    refine .inserted hafter hinserted ?_
    apply h'.quiet_inserted he' hread hrun' hindex hafter hinserted
    obtain ⟨id, gs, rfl, _, _⟩ := newDocument_ok hnew
    intro s hs
    refine getD_assemble ?_ hs
    rintro rfl
    exact absurd hs (by decide)

end

/--
An upsert that is done a second time, and reads its document as before, changes nothing but a time:
always if the first one has changed a document, other than one that it found by the time that has
changed, and if the first one has inserted a document exactly when the document is found by what was
written, and nothing in it was stored in another form. A document in which every identifier is a
text is always read as before.
-/
theorem upsert_again {e e' : Engine} (he : e.Reachable) {name doc key : Value} {clock : Clock}
    {a : Answer} (hrun : run clock.now (.call (.upsertOne name doc key)) e = (.ok a, e'))
    : ∃ fs given field written i e₁, doc = .object fs ∧
      IsResolved e name fs key given field written i e₁
      ∧ ((∀ j, Extended.encode .line doc = .ok j → Extended.HasNamedIds j) →
        Extended.normalForm doc e'.ids = (.ok (.object given), e'.ids))
      ∧ ∀ (clock' : Clock) (r : Except Error Answer) (e'' : Engine),
        (∃ ids, Extended.normalForm doc e'.ids = (.ok (.object given), ids)) →
        run clock'.now (.call (.upsertOne name doc key)) e' = (r, e'') →
        DoneAgain written field clock.now (e₁.store i).documents (e'.store i).documents r
          (e''.store i).documents := by
  obtain ⟨fs, given, field, written, i, e₁, rfl, h⟩ := isResolved_of_run hrun
  obtain ⟨ids, hnormal, _⟩ := h.opened
  refine ⟨fs, given, field, written, i, e₁, rfl, h, ?_, ?_⟩
  . exact fun hnamed => Extended.normalForm_again hnormal hnamed e'.ids
  . rintro clock' r e'' ⟨ids, hsame⟩ hrun'
    exact h.doneAgain he.sound hrun (h.again hrun hsame) hrun'

def upsertNamed : Request :=
  .call (.upsertOne (.text "c") (.object [(.text "t", .text "a")]) (.text "t"))

theorem upsert_again_named
    : ∃ a e', run Clock.epoch.now upsertNamed openedEngine = (.ok a, e')
        ∧ ∃ r e'', run Clock.epoch.now upsertNamed e' = (r, e'')
          ∧ IsQuiet (e'.store 0).documents r (e''.store 0).documents := by
  have hplace : IsPlaceOf openedEngine (.text "c") 0 := ⟨"c", rfl, by decide +kernel⟩
  have hnormal : ∀ ids, Extended.normalForm (.object [(.text "t", .text "a")]) ids
      = (.ok (.object [(.text "t", .text "a")]), ids) := fun _ => rfl
  have hok : (run Clock.epoch.now upsertNamed openedEngine).1.isOk = true := by decide +kernel
  rcases hrun : run Clock.epoch.now upsertNamed openedEngine with ⟨r, e'⟩
  rw [hrun] at hok
  obtain ⟨a, rfl⟩ := isOk_iff.mp hok
  rcases hrun' : run Clock.epoch.now upsertNamed e' with ⟨r', e''⟩
  refine ⟨a, e', rfl, r', e'', hrun', ?_⟩
  obtain ⟨fs, given, field, written, i, e₁, hfs, h, _, hagain⟩ :=
    upsert_again openedEngine_reachable hrun
  obtain ⟨rfl, ids, rfl⟩ := h.of_place hplace
  cases hfs
  obtain ⟨_, hgiven, _⟩ := h.opened
  rw [hnormal] at hgiven
  cases hgiven
  cases h.designates with
  | key present =>
    cases hagain .epoch r' e'' ⟨_, hnormal _⟩ hrun' with
    | changed found =>
      change (openedEngine.store 0).documents[_]? = _ at found
      rw [openedEngine_documents] at found
      cases found
    | inserted _ _ again =>
      apply again.mpr
      refine ⟨.field rfl (by decide) ⟨?_, ?_⟩, ?_⟩ <;> decide +kernel

def upsertHalfMilli : Request := .call (.upsertOne (.text "c") halfMilliDocument (.text "at"))

theorem upsert_again_inserts
    : ¬ ∀ (e e₁ e' e'' : Engine) (name key : Value) (fs given written : Fields)
      (field : Option String) (i : Nat)
        (clock clock' : Clock) (a : Answer) (r : Except Error Answer), e.Reachable →
        IsResolved e name fs key given field written i e₁ →
          (Fields.getD given idField ≠ .null ∨ field ≠ none) →
        run clock.now (.call (.upsertOne name (.object fs) key)) e = (.ok a, e') →
        run clock'.now (.call (.upsertOne name (.object fs) key)) e' = (r, e'') →
        IsQuiet (e'.store i).documents r (e''.store i).documents := by
  intro h
  have hplace : IsPlaceOf openedEngine (.text "c") 0 := ⟨"c", rfl, by decide +kernel⟩
  have hpresent : Fields.getD halfMilliFields "at" ≠ .null := by
    have hdate : Fields.getD halfMilliFields "at" = .date (.utc 500) := Fields.getD_cons_self ..
    rw [hdate]
    nofun
  have hresolved : IsResolved openedEngine (.text "c")
    [(.text "at", .object [(.text "$date", .text halfMilliText)])]
      (.text "at") halfMilliFields (some "at") halfMilliFields 0 openedEngine :=
    ⟨⟨{}, normalForm_halfMilliDocument, collection_of_place hplace⟩, .key hpresent⟩
  have hok : (run Clock.epoch.now upsertHalfMilli openedEngine).1.isOk = true := by decide +kernel
  have hlengths : ((run Clock.epoch.now upsertHalfMilli openedEngine).2.store 0).documents.length =
    1
      ∧ ((run Clock.epoch.now upsertHalfMilli
        (run Clock.epoch.now upsertHalfMilli openedEngine).2).2.store
          0).documents.length = 2 := by decide +kernel
  rcases hrun : run Clock.epoch.now upsertHalfMilli openedEngine with ⟨r, e'⟩
  rw [hrun] at hok hlengths
  obtain ⟨a, rfl⟩ := isOk_iff.mp hok
  rcases hrun' : run Clock.epoch.now upsertHalfMilli e' with ⟨r', e''⟩
  rw [hrun'] at hlengths
  have hquiet :=
    h _ _ _ _ _ _ _ _ _ _ _ _ _ _ _ openedEngine_reachable hresolved (.inr nofun) hrun hrun'
  revert hquiet
  apply not_isQuiet_of_length
  rw [hlengths.1, hlengths.2]
  decide

end Engine

end DocStore
