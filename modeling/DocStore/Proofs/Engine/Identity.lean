import DocStore.Proofs.Engine.Repeat

/-!
This module contains how the requests of a collection resolve an identifier: which documents are
refused because theirs is taken, and when the requests that follow a creation act on the document
that was created.
-/

namespace DocStore

open Work

namespace Value

theorem equals_reread_right {u w : Value} (hw : w.IsRead) (hhash : w.isHashable = true)
    (hwhole : w.isWhole = true)
    : u.equals w.reread = u.equals w := by
  cases hw with
  | list | object | storedRegex => cases hhash
  | @date wall _ =>
    have hmod : wall % 1000 = 0 := of_decide_eq_true hwhole
    have hmillis : wall / 1000 * 1000 = wall := Int.ediv_mul_cancel_of_emod_eq_zero hmod
    have hreread : (Value.date (.utc wall)).reread = .date (.utc wall) :=
      congrArg (fun micros => Value.date (.utc micros)) hmillis
    rw [hreread]
  | long => cases u <;> simp [reread, equals, equalsInteger, integer?]
  | _ => rfl

theorem IsRead.reread {v : Value} (h : v.IsRead) : v.reread.IsRead := by
  obtain ⟨j, hj⟩ := Extended.encodeTree_isOk .line h.isStored
  have hread := Extended.decode_encodeTree v hj
  rw [Extended.decode_encodeTree_reread h hj] at hread
  exact hread {} _ _ rfl

theorem normalizeId_reread (v : Value) : v.reread.normalizeId = v.normalizeId.reread := by
  cases v <;> rfl

theorem isDate_of_not_isWhole {w : Value} (hhash : w.isHashable = true) (hwhole : w.isWhole = false)
    (hw : w.IsRead) : ∃ m, w = .date m := by
  cases hw with
  | list | object | storedRegex => cases hhash
  | date => exact ⟨_, rfl⟩
  | _ => cases hwhole

end Value

namespace Collection

open Document

def IsHeld (docs : List Fields) (v : Value) : Prop := ∃ d ∈ docs, valuesEqual (idOf d) v = true

/-- An identifier is the number that a boolean stands for, or a boolean that stands for a number. -/
def Clashes (docs : List Fields) (v : Value) : Prop :=
  ∃ d ∈ docs, (idOf d).normalizeId.isBool ≠ v.normalizeId.isBool ∧
    (idOf d).normalizeId.equals v.normalizeId = true

structure IsIdentifier (w : Value) : Prop where
  present : w ≠ .null
  hashable : w.isHashable = true
  self : w.equals w = true

section

variable {docs : List Fields} {v w : Value}

theorem isTaken_iff (hw : w.IsStored) (hhash : w.isHashable = true)
    : isTaken (takenIds docs) w.normalizeId = true ↔ IsHeld docs w ∨ Clashes docs w := by
  unfold isTaken IsHeld Clashes
  rw [List.any_eq_true]
  constructor
  . rintro ⟨u, hu, hequals⟩
    unfold takenIds at hu
    obtain ⟨hu, _⟩ := List.mem_filter.mp hu
    obtain ⟨d, hd, rfl⟩ := List.mem_map.mp hu
    change (idOf d).normalizeId.equals w.normalizeId = true at hequals
    by_cases hbool : (idOf d).normalizeId.isBool = w.normalizeId.isBool
    . left
      refine ⟨d, hd, ?_⟩
      rw [valuesEqual_eq, hbool, beq_self_eq_true, Bool.true_and]
      exact hequals
    . exact .inr ⟨d, hd, hbool, hequals⟩
  . intro h
    have hsome : ∃ d ∈ docs, (idOf d).normalizeId.equals w.normalizeId = true := by
      rcases h with ⟨d, hd, hequal⟩ | ⟨d, hd, _, hequals⟩
      . rw [valuesEqual_eq, Bool.and_eq_true] at hequal
        exact ⟨d, hd, hequal.2⟩
      . exact ⟨d, hd, hequals⟩
    obtain ⟨d, hd, hequals⟩ := hsome
    refine ⟨(idOf d).normalizeId, ?_, hequals⟩
    apply mem_takenIds (List.mem_map_of_mem hd)
    rw [← Value.isHashable_normalizeId] at hhash ⊢
    by_contra hunhashable
    rw [Value.equals_unhashable hw.normalizeId (by simpa using hunhashable) hhash] at hequals
    cases hequals

theorem isHeld_congr (hstored : ∀ d ∈ docs, d.IsStored) (hw : w.IsStored)
    (hhash : w.isHashable = true)
    (h : valuesEqual w v = true) : IsHeld docs v ↔ IsHeld docs w := by
  unfold IsHeld
  refine exists_congr fun d => and_congr_right fun hd => ?_
  have hid : (idOf d).IsStored := (hstored d hd).getD _
  rw [valuesEqual_congr_right hid hw hhash h]

theorem not_clashes_date (m : Moment) : ¬ Clashes docs (.date m) := by
  rintro ⟨d, _, hbool, hequals⟩
  change (idOf d).normalizeId.equals (.date m) = true at hequals
  cases hid : (idOf d).normalizeId with
  | date =>
    rw [hid] at hbool
    exact hbool rfl
  | _ =>
    rw [hid] at hequals
    simp [Value.equals, Value.equalsInteger, Value.integer?] at hequals

theorem isTaken_reread_iff (hw : w.IsRead) (hid : IsIdentifier w) (hnormal : w.normalizeId = w)
    (hfree : ¬ IsHeld docs w)
    : isTaken (takenIds docs) w.reread = true ↔ Clashes docs w ∨
      (w.isWhole = false ∧ IsHeld docs w.reread) := by
  cases hwhole : w.isWhole with
  | true =>
    have hreread : isTaken (takenIds docs) w.reread = isTaken (takenIds docs) w.normalizeId := by
      unfold isTaken
      rw [hnormal]
      congr 1
      funext u
      exact Value.equals_reread_right hw hid.hashable hwhole
    rw [hreread, isTaken_iff hw.isStored hid.hashable]
    simp [hfree]
  | false =>
    obtain ⟨m, rfl⟩ := Value.isDate_of_not_isWhole hid.hashable hwhole hw
    have htaken : isTaken (takenIds docs) (Value.date m).reread = true
        ↔ IsHeld docs (Value.date m).reread ∨ Clashes docs (Value.date m).reread :=
          isTaken_iff hw.reread.isStored rfl
    rw [htaken]
    have hclash : ¬ Clashes docs (Value.date m).reread := not_clashes_date _
    have hclash' : ¬ Clashes docs (.date m) := not_clashes_date _
    simp [hclash, hclash']

theorem findById_iff : (∃ d, findById docs v = .object d) ↔ IsHeld docs v := by
  unfold findById IsHeld
  simp only [valuesEqual_normalizeId]
  cases hfound : docs.find? fun d => valuesEqual (Fields.getD d idField) v with
  | some d =>
    have hd := List.find?_some hfound
    exact ⟨fun _ => ⟨d, List.mem_of_find?_eq_some hfound, hd⟩, fun _ => ⟨d, rfl⟩⟩
  | none =>
    rw [List.find?_eq_none] at hfound
    constructor
    . rintro ⟨_, hnull⟩
      cases hnull
    . rintro ⟨d, hd, hequal⟩
      exact absurd hequal (hfound d hd)

end

def storedId (gs : Fields) : Value := (Fields.getD gs idField).normalizeId

theorem storedId_cons (v : Value) (fs : Fields)
    : storedId ((.text idField, v) :: fs) = v.normalizeId := by
  unfold storedId
  rw [Fields.getD_cons_self]

theorem normalizeId_storedId (gs : Fields) : (storedId gs).normalizeId = storedId gs :=
  Value.normalizeId_idem _

theorem getD_of_storedId {gs : Fields} (h : storedId gs ≠ .null) : Fields.getD gs idField ≠ .null :=
  fun hnull => h (Value.normalizeId_eq_null.mpr hnull)

theorem storedId_isRead {gs : Fields} (h : (Value.object gs).IsRead) : (storedId gs).IsRead :=
  ((Fields.areRead_of_isRead h).getD _).normalizeId

theorem newId_eq (collection : String) {id : Value} (taken : List Value) (h : IsIdentifier id)
    (ids : IdSupply)
    : newId collection id taken ids
      = (if isTaken taken id then .error (.duplicateKey (.text collection) id) else .ok id,
        ids) := by
  have hgiven : ∀ id : Value, id ≠ .null → newId collection id taken
      = (if !id.isHashable then throw (.argument (.unhashableId id))
        else if isTaken taken id then throw (.duplicateKey (.text collection) id)
        else return id) := by
    intro id hid
    cases id <;> first | rfl | exact absurd rfl hid
  rw [hgiven id h.present, if_neg (by rw [h.hashable]; exact Bool.false_ne_true)]
  split <;> rfl

theorem newDocument_eq (collection : String) {fs gs : Fields} (taken : List Value) (now : Moment)
    {ids ids' : IdSupply}
    (hnormal : Extended.normalForm (.object fs) ids = (.ok (.object gs), ids'))
    (hid : IsIdentifier (storedId gs))
    : newDocument collection (.object fs) taken now ids
      = (if isTaken taken (storedId gs) then .error (.duplicateKey (.text collection) (storedId gs))
          else .ok (assemble (storedId gs) gs now), ids') := by
  unfold newDocument
  dsimp only
  rw [bind_ok hnormal]
  have hnew := newId_eq collection taken hid ids'
  dsimp only
  change (newId collection (storedId gs) taken >>= _) ids' = _
  cases htaken : isTaken taken (storedId gs) with
  | true =>
    rw [htaken] at hnew
    exact bind_error hnew
  | false =>
    rw [htaken] at hnew
    exact bind_ok hnew

theorem IsIdentifier.reread {w : Value} (h : IsIdentifier w) (hw : w.IsRead)
    : IsIdentifier w.reread := by
  refine ⟨fun hnull => h.present (Value.reread_eq_null hnull), ?_, ?_⟩
  . cases hw <;> exact h.hashable
  . cases hw with
    | list | object | storedRegex => cases h.hashable
    | date => simp [Value.reread, Value.equals, Moment.sameAs]
    | long => simp [Value.reread, Value.equals, Value.equalsInteger, Value.integer?]
    | _ => exact h.self

theorem storedId_reread (gs : Fields) : storedId gs.reread = (storedId gs).reread := by
  unfold storedId
  rw [Fields.getD_reread, Value.normalizeId_reread]

theorem IsIdentifier.valuesEqual_self {w : Value} (h : IsIdentifier w) (hnormal : w.normalizeId = w)
    : valuesEqual w w = true := by
  rw [valuesEqual_eq, hnormal, h.self, beq_self_eq_true, Bool.and_self]

theorem ne_null_of_valuesEqual {v w : Value} (hw : w ≠ .null) (h : valuesEqual w v = true)
    : v ≠ .null := by
  rintro rfl
  rw [valuesEqual_eq, Bool.and_eq_true] at h
  cases w with
  | null => exact hw rfl
  | _ =>
    simp [Value.normalizeId, Value.equals, Value.equalsInteger, Value.integer?, Value.ofText] at h

theorem hasId_iff {gs : Fields} (hpresent : storedId gs ≠ .null) (doc : Fields)
    : HasId gs doc ↔ valuesEqual (idOf doc) (storedId gs) = true := by
  unfold HasId
  rw [and_iff_right (getD_of_storedId hpresent), storedId, valuesEqual_normalizeId]

section

variable {docs : List Fields} {new : Fields} {v : Value}

theorem indexOf?_last (hfree : ¬ IsHeld docs v) (hnew : valuesEqual (idOf new) v = true)
    : indexOf? (docs ++ [new]) v.normalizeId = some docs.length := by
  have hlast : (docs ++ [new])[docs.length]? = some new := by simp
  unfold indexOf?
  simp only [valuesEqual_normalizeId]
  apply findIdx?_of_first hlast hnew
  intro k d hk hd
  rw [List.getElem?_append_left hk] at hd
  rw [Bool.eq_false_iff]
  exact fun hequal => hfree ⟨d, List.mem_of_getElem? hd, hequal⟩

theorem findById_last_iff (hfree : valuesEqual (idOf new) v = true → ¬ IsHeld docs v)
    : findById (docs ++ [new]) v = .object new ↔ valuesEqual (idOf new) v = true := by
  unfold findById
  simp only [valuesEqual_normalizeId]
  constructor
  . intro hfound
    cases hfind : (docs ++ [new]).find? fun d => valuesEqual (Fields.getD d idField) v with
    | none =>
      rw [hfind] at hfound
      cases hfound
    | some d =>
      rw [hfind] at hfound
      cases hfound
      exact List.find?_some (p := fun d => valuesEqual (Fields.getD d idField) v) hfind
  . intro hequal
    have hnone : (docs.find? fun d => valuesEqual (Fields.getD d idField) v) = none := by
      rw [List.find?_eq_none]
      exact fun d hd hd' => hfree hequal ⟨d, hd, hd'⟩
    have hlast : ([new].find? fun d => valuesEqual (Fields.getD d idField) v) = some new :=
      List.find?_cons_of_pos hequal
    rw [List.find?_append, hnone, hlast]
    rfl

end

end Collection

namespace Engine

open Collection Document

def isDuplicate : Except Error Answer → Bool
  | .error (.duplicateKey _ _) => true
  | _ => false

theorem IsAnswered.isDuplicate_eq {a : Answer} {r : Except Error Answer} (h : IsAnswered a r)
    : isDuplicate r = false := by
  rcases h with ⟨_, _, _, rfl | rfl⟩ | rfl <;> rfl

section

variable {e e₁ e' : Engine} {name v : Value} {fs gs : Fields} {i : Nat} {ids : IdSupply}
  {clock : Clock}
variable {r : Except Error Answer}

theorem run_findById (h : IsPlaceOf e name i)
    : run clock.now (.call (.findById name v)) e =
      (.ok (.document (findById (e.store i).documents v)), e) := by
  apply run_answered
  rw [begin_call]
  dsimp only [beginCall]
  rw [bind_ok (snapshot_of_place h)]
  rfl

theorem createOne_isDuplicate_iff (he : e.Sound) (h : IsPlaceOf e name i)
    (hnormal : Extended.normalForm (.object fs) e.ids = (.ok (.object gs), ids))
    (hid : IsIdentifier (storedId gs))
    : isDuplicate (run clock.now (.call (.createOne name (.object fs))) e).1 = true
      ↔ isTaken (takenIds (e.store i).documents) (storedId gs) = true := by
  have hnew :=
    newDocument_eq (e.store i).name (takenIds (e.store i).documents) clock.now hnormal hid
  cases htaken : isTaken (takenIds (e.store i).documents) (storedId gs) with
  | true =>
    rw [htaken, if_pos rfl] at hnew
    rw [run_createOne_refused h hnew]
    simp [isDuplicate]
  | false =>
    rw [htaken, if_neg Bool.false_ne_true] at hnew
    have hrun := (Prod.mk.eta (p := run clock.now (.call (.createOne name (.object fs))) e)).symm
    have hcreated := run_createOne he h hnew hrun
    rw [hcreated.answer.isDuplicate_eq]

theorem upsertOne_isDuplicate_iff (he : e.Sound) {written : Fields} {field : Option String}
    (h : IsResolved e name fs .null gs field written i e₁) (hid : IsIdentifier (storedId gs))
    : isDuplicate (run clock.now (.call (.upsertOne name (.object fs) .null)) e).1 = true
      ↔ upsertIndex? (e₁.store i).documents written (keyOf field) = none
        ∧ isTaken (takenIds (e₁.store i).documents) (storedId gs).reread = true := by
  have hrun :=
    (Prod.mk.eta (p := run clock.now (.call (.upsertOne name (.object fs) .null)) e)).symm
  have hstored : storedId (Fields.reread written) = (storedId gs).reread := by
    rw [storedId_reread, storedId, h.designates.getD_of_ne (by decide), storedId]
  cases hindex : upsertIndex? (e₁.store i).documents written (keyOf field) with
  | some j =>
    obtain ⟨doc, hj⟩ := getElem?_of_upsertIndex? hindex
    obtain ⟨hanswer, _⟩ := h.run_found he hindex hj hrun
    rw [hanswer.isDuplicate_eq]
    simp
  | none =>
    have hnew := newDocument_eq (e₁.store i).name (takenIds (e₁.store i).documents) clock.now
      (Extended.normalForm_isRead h.written_isRead e₁.ids)
      (by rw [hstored]; exact hid.reread (storedId_isRead h.isRead))
    rw [hstored] at hnew
    cases htaken : isTaken (takenIds (e₁.store i).documents) (storedId gs).reread with
    | true =>
      rw [htaken, if_pos rfl] at hnew
      rw [h.run_unfound_refused hindex hnew hrun]
      simp [isDuplicate]
    | false =>
      rw [htaken, if_neg Bool.false_ne_true] at hnew
      rw [(h.run_unfound he hindex hnew hrun).1.isDuplicate_eq]
      simp

end

def IsFoundById (e : Engine) (name v : Value) : Prop :=
  ∃ d, ∀ clock : Clock, run clock.now (.call (.findById name v)) e =
    (.ok (.document (.object d)), e)

structure ChangesLast (docs : List Fields) (new : Fields) (r : Except Error Answer)
    (docs' : List Fields) : Prop where
  answered : IsAnswered (.report (Mutation.updated 1)) r
  changed : ∃ gs new', docs' = docs ++ [new'] ∧ IsPatched gs new new'

structure ActsOnLast (e : Engine) (name : Value) (i : Nat) (docs : List Fields) (new : Fields)
    (v : Value) : Prop where
  finds : ∀ clock : Clock, run clock.now (.call (.findById name v)) e =
    (.ok (.document (.object new)), e)
  updates : ∀ (clock : Clock) (fs : Fields) (r : Except Error Answer) (e' : Engine),
    Fields.getD fs idField = v →
    run clock.now (.call (.updateOne name (.object fs))) e = (r, e') → ¬ IsRefused r →
    ChangesLast docs new r (e'.store i).documents
  deletes : ∀ (clock : Clock) (r : Except Error Answer) (e' : Engine),
    run clock.now (.call (.deleteOne name v)) e = (r, e') →
    IsAnswered (.report (.deleted (.int 1))) r ∧ (e'.store i).documents = docs

section

variable {e e' : Engine} {name v : Value} {fs gs : Fields} {i : Nat} {ids : IdSupply}
  {clock : Clock}
variable {r : Except Error Answer} {docs : List Fields} {new : Fields}

theorem run_findById_iff (h : IsPlaceOf e name i) (d : Fields)
    : (∀ clock : Clock, run clock.now (.call (.findById name v)) e =
      (.ok (.document (.object d)), e))
      ↔ findById (e.store i).documents v = .object d := by
  constructor
  . intro hfound
    have hrun := hfound .epoch
    rw [run_findById h, Prod.mk.injEq, Except.ok.injEq, Answer.document.injEq] at hrun
    exact hrun.1
  . intro hfound clock
    rw [run_findById h, hfound]

theorem isFoundById_iff (h : IsPlaceOf e name i)
    : IsFoundById e name v ↔ IsHeld (e.store i).documents v := by
  unfold IsFoundById
  rw [← findById_iff]
  exact exists_congr fun d => run_findById_iff h d

theorem run_deleteOne_last (he : e.Sound) (h : IsPlaceOf e name i)
    (hdocs : (e.store i).documents = docs ++ [new]) (hfree : ¬ IsHeld docs v)
    (hnew : valuesEqual (idOf new) v = true)
    (hrun : run clock.now (.call (.deleteOne name v)) e = (r, e'))
    : IsAnswered (.report (.deleted (.int 1))) r ∧ (e'.store i).documents = docs := by
  have hbegin : begin (.call (.deleteOne name v)) e =
      (.ok (.waits i (.mutate (.delete v.normalizeId))), e) :=
    mutation_of_place h _
  have herase : (docs ++ [new]).eraseIdx docs.length = docs := by
    rw [List.eraseIdx_append_of_length_le (Nat.le_refl _), Nat.sub_self, List.eraseIdx_cons_zero,
      List.append_nil]
  have heffect : effectAt e clock.now i (.delete v.normalizeId)
      = ⟨docs, e.ids, .ok (.report (.deleted (.int 1)), true)⟩ := by
    unfold effectAt Mutation.effect
    dsimp only
    rw [hdocs, indexOf?_last hfree hnew]
    dsimp only
    rw [herase]
  have hanswer := run_mutation_answer clock he hbegin (congrArg Effect.outcome heffect)
  have hdocuments := run_mutation_documents clock hbegin (he.lt_of_place h)
  rw [hrun] at hanswer hdocuments
  rw [heffect] at hdocuments
  exact ⟨hanswer, hdocuments⟩

theorem set_last (docs : List Fields) (new new' : Fields)
    : (docs ++ [new]).set docs.length new' = docs ++ [new'] := by
  rw [List.set_append_right _ _ (Nat.le_refl _), Nat.sub_self, List.set_cons_zero]

theorem run_update_last {e₁ : Engine} (he : e.Sound) {q : Request} {p : Value} (hp : IsPatch p)
    (hbegin : begin q e = (.ok (.waits i (.mutate (.update v.normalizeId p))), e₁))
    (h : IsPlaceOf e₁ name i) (hdocs : (e₁.store i).documents = docs ++ [new])
    (hfree : ¬ IsHeld docs v) (hnew : valuesEqual (idOf new) v = true)
    (hrun : run clock.now q e = (r, e')) (hr : ¬ IsRefused r)
    : ChangesLast docs new r (e'.store i).documents := by
  have he₁ : e₁.Sound := by
    have hsound := he.begin q
    rwa [hbegin] at hsound
  have hlast : (docs ++ [new])[docs.length]? = some new := by simp
  have heffect : effectAt e₁ clock.now i (.update v.normalizeId p)
      = Mutation.changeEffect (docs ++ [new]) e₁.ids docs.length p clock.now := by
    unfold effectAt Mutation.effect
    dsimp only
    rw [hdocs, indexOf?_last hfree hnew]
  by_cases hobject : ∃ gs, p = .object gs
  . obtain ⟨gs, rfl⟩ := hobject
    have hchange : Mutation.changeEffect (docs ++ [new]) e₁.ids docs.length (.object gs) clock.now
        = ⟨docs ++ [patched new gs clock.now], e₁.ids,
            .ok (.report (Mutation.updated 1), true)⟩ := by
      unfold Mutation.changeEffect
      rw [hlast]
      dsimp only
      rw [merge_eq_patched]
      dsimp only
      rw [set_last]
    rw [hchange] at heffect
    have hanswer := run_mutation_answer clock he hbegin (congrArg Effect.outcome heffect)
    have hdocuments := run_mutation_documents clock hbegin (he₁.lt_of_place h)
    rw [hrun] at hanswer hdocuments
    rw [heffect] at hdocuments
    exact ⟨hanswer, gs, _, hdocuments, patched_isPatched hp new clock.now⟩
  . have hother : ∀ gs, p ≠ .object gs := fun gs hgs => hobject ⟨gs, hgs⟩
    have hout : (e₁.effectAt clock.now i (.update v.normalizeId p)).outcome =
        .error (.fault .wrongKind) := by
      rw [heffect]
      exact changeEffect_typed hother hlast
    have hrefused := (run_mutation_refused clock hbegin hout).1
    rw [hrun] at hrefused
    dsimp only at hrefused
    rw [hrefused] at hr
    exact absurd (isRefused_error rfl) hr

theorem run_updateOne_last (he : e.Sound) (h : IsPlaceOf e name i)
    (hdocs : (e.store i).documents = docs ++ [new]) (hfree : ¬ IsHeld docs v)
    (hnew : valuesEqual (idOf new) v = true) (hv : v ≠ .null) (hfs : Fields.getD fs idField = v)
    (hrun : run clock.now (.call (.updateOne name (.object fs))) e = (r, e'))
    (hr : ¬ IsRefused r) : ChangesLast docs new r (e'.store i).documents := by
  obtain ⟨rest, hsplit⟩ : ∃ rest, splitId fs = (v, rest) := by
    unfold splitId
    rw [hfs]
    cases v <;> first | exact ⟨_, rfl⟩ | exact absurd rfl hv
  have hbegin : begin (.call (.updateOne name (.object fs))) e =
      (patchOf (.object rest) >>= fun patch =>
      mutation name (.update v.normalizeId patch)) e := begin_updateOne rfl hsplit hv
  rcases hpatch : patchOf (.object rest) e with ⟨p, e₁⟩
  cases p with
  | error err =>
    rw [run_error (hbegin.trans (bind_error hpatch))] at hrun
    cases hrun
    exact absurd (isRefused_error (patchOf_accuses _ _ _ _ hpatch)) hr
  | ok p =>
    obtain ⟨gs, ids, hgs, rfl, hnormal⟩ := patchOf_ok hpatch
    have hplace : IsPlaceOf { e with ids } name i := h.congr rfl
    rw [bind_ok hpatch, mutation_of_place hplace] at hbegin
    exact run_update_last he (normalForm_isPatch hnormal) hbegin hplace hdocs hfree hnew hrun hr

theorem run_upsertOne_last {key : Value} (he : e.Sound) (h : IsPlaceOf e name i)
    (hdocs : (e.store i).documents = docs ++ [new])
    (hnormal : Extended.normalForm (.object fs) e.ids = (.ok (.object gs), ids))
    (hpresent : storedId gs ≠ .null) (hfree : ¬ IsHeld docs (storedId gs))
    (hnew : valuesEqual (idOf new) (storedId gs) = true)
    (hrun : run clock.now (.call (.upsertOne name (.object fs) key)) e = (r, e'))
    (hr : ¬ IsRefused r) : ChangesLast docs new r (e'.store i).documents := by
  have hbegin : begin (.call (.upsertOne name (.object fs) key)) e
      = ((resolveKey gs key : Except Error (Value × Fields)) >>= fun p =>
          mutation name (.upsert p.2 p.1) : Action Start) { e with ids } := begin_upsertOne hnormal
  cases hkey : resolveKey gs key with
  | error err =>
    rw [hkey, lift_error_bind] at hbegin
    rw [run_error hbegin] at hrun
    cases hrun
    exact absurd (isRefused_error (resolveKey_blames _ _ _ hkey)) hr
  | ok p =>
    obtain ⟨key', written⟩ := p
    have hgs : gs.IsKeyed :=
      (Fields.isStored_object.mp (Extended.normalForm_reads _ _ _ _ hnormal).isStored).keyed
    obtain ⟨field, rfl, hdesignates⟩ := resolveKey_designates hgs hkey
    have hplace : IsPlaceOf { e with ids } name i := h.congr rfl
    have hresolved : IsResolved e name fs key gs field written i { e with ids } :=
      ⟨⟨ids, hnormal, collection_of_place hplace⟩, hdesignates⟩
    have hlast : (docs ++ [new])[docs.length]? = some new := by simp
    have hindex : upsertIndex? (docs ++ [new]) written (keyOf field) = some docs.length := by
      rw [upsertIndex?_eq, placeById?_of_hasId hlast, Option.some_or]
      . rw [hasId_written hdesignates, hasId_iff hpresent]
        exact hnew
      . intro k d hk hd
        rw [List.getElem?_append_left hk] at hd
        rw [hasId_written hdesignates, hasId_iff hpresent]
        exact fun hequal => hfree ⟨d, List.mem_of_getElem? hd, hequal⟩
    rw [← hdocs] at hindex hlast
    obtain ⟨hanswer, hdocuments⟩ := hresolved.run_found he hindex hlast hrun
    change _ = (e.store i).documents.set _ _ at hdocuments
    rw [hdocs, set_last] at hdocuments
    exact ⟨hanswer, _, _, hdocuments,
      patched_isPatched (stripStoreFields_isPatch hresolved.written_isRead) ..⟩

def HasOnlyId (fs : Fields) (v : Value) : Prop :=
  (.text idField, v) ∈ fs ∧ ∀ f ∈ fs, f.1 = .text idField → f.2 = v

theorem hasOnlyId_singleton (v : Value) : HasOnlyId [(.text idField, v)] v := by
  refine ⟨List.mem_singleton_self _, ?_⟩
  intro f hf _
  rw [List.mem_singleton.mp hf]

theorem storedId_of_isRead {ids' : IdSupply} (hv : v.IsRead) (hfs : HasOnlyId fs v)
    (hnormal : Extended.normalForm (.object fs) ids = (.ok (.object gs), ids'))
    (hpresent : storedId gs ≠ .null)
    : storedId gs = v.reread.normalizeId := by
  obtain ⟨f, hf, hkey, j, ids₁, ids₂, hencode, hdecode⟩ :=
    Extended.normalForm_get? hnormal (mark_mem_storeFields (by decide))
      (Fields.get?_of_getD_ne (getD_of_storedId hpresent))
  rw [hfs.2 f hf hkey] at hencode
  rw [Extended.decode_encodeTree_reread hv hencode] at hdecode
  have hvalue : v.reread = Fields.getD gs idField := Except.ok.inj (Prod.mk.inj hdecode).1
  unfold storedId
  rw [hvalue]

end

structure ActsAfter (e : Engine) (name : Value) (i : Nat) (docs : List Fields) (new : Fields)
    (v : Value) : Prop where
  documents : (e.store i).documents = docs ++ [new]
  finds : (∀ clock : Clock, run clock.now (.call (.findById name v)) e =
    (.ok (.document (.object new)), e))
    ↔ valuesEqual (idOf new) v = true
  acts : valuesEqual (idOf new) v = true → ActsOnLast e name i docs new v
  /-- An upsert looks for the identifier that it reads. -/
  upserts :
    ∀ (clock : Clock) (fs gs : Fields) (ids : IdSupply) (key : Value) (r : Except Error Answer)
    (e' : Engine),
    Extended.normalForm (.object fs) e.ids = (.ok (.object gs), ids) → storedId gs ≠ .null →
    valuesEqual (idOf new) (storedId gs) = true →
    run clock.now (.call (.upsertOne name (.object fs) key)) e = (r, e') → ¬ IsRefused r →
    ChangesLast docs new r (e'.store i).documents

theorem actsAfter {e : Engine} (he : e.Sound) {name : Value} {i : Nat} (hplace : IsPlaceOf e name i)
    {docs : List Fields} {new : Fields} (hdocs : (e.store i).documents = docs ++ [new])
    (hstored : ∀ d ∈ docs, d.IsStored) (hnew : (idOf new).IsStored) (hid : IsIdentifier (idOf new))
    (hfree : ¬ IsHeld docs (idOf new)) (v : Value) : ActsAfter e name i docs new v := by
  have hfreeOf : ∀ u, valuesEqual (idOf new) u = true → ¬ IsHeld docs u :=
    fun u hu hheld => hfree ((isHeld_congr hstored hnew hid.hashable hu).mp hheld)
  have hfinds : (∀ clock : Clock, run clock.now (.call (.findById name v)) e =
    (.ok (.document (.object new)), e))
      ↔ valuesEqual (idOf new) v = true := by
    rw [run_findById_iff hplace, hdocs]
    exact findById_last_iff (hfreeOf v)
  refine ⟨hdocs, hfinds, ?_, ?_⟩
  . intro hequal
    constructor
    . exact hfinds.mpr hequal
    . intro clock fs r e' hfs hrun hr
      exact run_updateOne_last he hplace hdocs (hfreeOf v hequal) hequal
        (ne_null_of_valuesEqual hid.present hequal) hfs
        hrun hr
    . intro clock r e' hrun
      exact run_deleteOne_last he hplace hdocs (hfreeOf v hequal) hequal hrun
  . intro clock fs gs ids key r e' hnormal hpresent hequal hrun hr
    exact run_upsertOne_last he hplace hdocs hnormal hpresent (hfreeOf _ hequal) hequal hrun hr

/--
How requests resolve the identifier of a document, which is given as one value and stored as
another. A document is refused if one is found by the stored value, or if this clashes. If both
values are equal, the requests that follow a creation act on the document that was created.
-/
structure ResolvesId (e : Engine) (name : Value) (i : Nat) (fs gs : Fields) (v : Value) : Prop where
  creates : ∀ clock : Clock, isDuplicate
    (run clock.now (.call (.createOne name (.object fs))) e).1 = true
    ↔ IsFoundById e name (storedId gs) ∨ Clashes (e.store i).documents (storedId gs)
  /-- An upsert that finds no document stores the identifier as it is read again. -/
  upserts : ∀ (clock : Clock) (field : Option String) (written : Fields),
    Designates gs .null field written →
    (isDuplicate (run clock.now (.call (.upsertOne name (.object fs) .null)) e).1 = true
      ↔ (¬ IsFoundById e name (storedId gs) ∧ ∀ d ∈ (e.store i).documents, ¬ HasField gs field d)
        ∧ (Clashes (e.store i).documents (storedId gs)
          ∨ ((storedId gs).isWhole = false ∧ IsFoundById e name (storedId gs).reread)))
  found : valuesEqual (storedId gs) v = true →
    (IsFoundById e name v ↔ IsFoundById e name (storedId gs))
  created : ∀ (clock : Clock) (r : Except Error Answer) (e' : Engine),
    run clock.now (.call (.createOne name (.object fs))) e = (r, e') → ¬ IsRefused r →
    ∃ new, IsAnswered (.report (.created (storedId gs))) r ∧ idOf new = storedId gs
      ∧ ActsAfter e' name i (e.store i).documents new v
  /--
  Of the values that were read before, those are stored as they are given that are read again as
  they are.
  -/
  given : v.IsRead → (valuesEqual (storedId gs) v = true ↔ IsLasting v)
  reads : v.IsRead → ∀ (fs' gs' : Fields) (ids ids' : IdSupply), HasOnlyId fs' v →
    Extended.normalForm (.object fs') ids = (.ok (.object gs'), ids') → storedId gs' ≠ .null →
    valuesEqual (storedId gs) (storedId gs') = true

theorem createOne_actsAfter {e e' : Engine} (he : e.Sound) {name : Value} {i : Nat}
    (hplace : IsPlaceOf e name i) {fs gs : Fields} {ids : IdSupply}
    (hnormal : Extended.normalForm (.object fs) e.ids = (.ok (.object gs), ids))
    (hid : IsIdentifier (storedId gs)) (v : Value) {clock : Clock} {r : Except Error Answer}
    (hrun : run clock.now (.call (.createOne name (.object fs))) e = (r, e')) (hr : ¬ IsRefused r)
    : ∃ new, IsAnswered (.report (.created (storedId gs))) r ∧ idOf new = storedId gs
        ∧ ActsAfter e' name i (e.store i).documents new v := by
  have hw := storedId_isRead (Extended.normalForm_reads _ _ _ _ hnormal)
  have htaken : isTaken (takenIds (e.store i).documents) (storedId gs).normalizeId = true
      ↔ IsHeld (e.store i).documents (storedId gs) ∨ Clashes (e.store i).documents (storedId gs) :=
    isTaken_iff hw.isStored hid.hashable
  rw [normalizeId_storedId] at htaken
  have hnew :=
    newDocument_eq (e.store i).name (takenIds (e.store i).documents) clock.now hnormal hid
  split at hnew
  next =>
    have hrefused := run_createOne_refused hplace hnew
    rw [hrun] at hrefused
    dsimp only at hrefused
    rw [hrefused] at hr
    exact absurd (isRefused_error rfl) hr
  next hnot =>
    have hcreated := run_createOne he hplace hnew hrun
    have hnewId : idOf (assemble (storedId gs) gs clock.now) = storedId gs := getD_assemble_id ..
    have hfree : ¬ IsHeld (e.store i).documents (storedId gs) :=
      fun hheld => hnot (htaken.mpr (.inl hheld))
    refine ⟨assemble (storedId gs) gs clock.now, ?_, hnewId, ?_⟩
    . rw [← hnewId]
      exact hcreated.answer
    . rw [← hnewId] at hw hid hfree
      exact actsAfter (he.run hrun) (hplace.run rfl hrun) hcreated.documents
        (he.documents i) hw.isStored hid hfree v

/--
The requests of a collection that is in use resolve an identifier to the same document as far as it
is stored as it is given, and unless it is a boolean that clashes with a number.
-/
theorem id_resolves {e : Engine} (he : e.Reachable) {name : Value} {i : Nat}
    (hplace : IsPlaceOf e name i) {fs gs : Fields} {ids : IdSupply}
    (hnormal : Extended.normalForm (.object fs) e.ids = (.ok (.object gs), ids))
    (hid : IsIdentifier (storedId gs)) {v : Value} (hv : HasOnlyId fs v)
    : ResolvesId e name i fs gs v := by
  have hread := Extended.normalForm_reads _ _ _ _ hnormal
  have hw := storedId_isRead hread
  have hstored := he.sound.documents i
  have hnormalId := normalizeId_storedId gs
  have htaken : isTaken (takenIds (e.store i).documents) (storedId gs).normalizeId = true
      ↔ IsHeld (e.store i).documents (storedId gs) ∨ Clashes (e.store i).documents (storedId gs) :=
    isTaken_iff hw.isStored hid.hashable
  rw [hnormalId] at htaken
  constructor
  . intro clock
    rw [createOne_isDuplicate_iff he.sound hplace hnormal hid, htaken, isFoundById_iff hplace]
  . intro clock field written hdesignates
    have hplace' : IsPlaceOf { e with ids } name i := hplace.congr rfl
    have hresolved : IsResolved e name fs .null gs field written i { e with ids } :=
      ⟨⟨ids, hnormal, collection_of_place hplace'⟩, hdesignates⟩
    have hunfound : upsertIndex? (e.store i).documents written (keyOf field) = none
        ↔ ¬ IsHeld (e.store i).documents (storedId gs) ∧
            ∀ d ∈ (e.store i).documents, ¬ HasField gs field d := by
      rw [upsertIndex?_eq_none_iff, forall₂_and]
      simp only [hasId_written hdesignates, hasField_written hdesignates, hasId_iff hid.present]
      unfold IsHeld
      push Not
      rfl
    rw [upsertOne_isDuplicate_iff he.sound hresolved hid]
    change upsertIndex? (e.store i).documents written (keyOf field) = none
      ∧ isTaken (takenIds (e.store i).documents) (storedId gs).reread = true ↔ _
    rw [hunfound, isFoundById_iff hplace, isFoundById_iff hplace]
    exact and_congr_right fun hfree => isTaken_reread_iff hw hid hnormalId hfree.1
  . intro hequal
    rw [isFoundById_iff hplace, isFoundById_iff hplace]
    exact isHeld_congr hstored hw.isStored hid.hashable hequal
  . exact fun clock r e' hrun hr => createOne_actsAfter he.sound hplace hnormal hid v hrun hr
  . intro hvread
    rw [storedId_of_isRead hvread hv hnormal hid.present, normalizeId_valuesEqual,
      isLasting_iff hvread]
  . intro hvread fs' gs' ids₁ ids₂ hv' hnormal' hpresent
    rw [storedId_of_isRead hvread hv' hnormal' hpresent,
      ← storedId_of_isRead hvread hv hnormal hid.present]
    exact hid.valuesEqual_self hnormalId

def namedFields : Fields := [(.text "_id", .text "3")]

theorem id_resolves_named
    : ResolvesId pairEngine (.text "c") 0 namedFields namedFields (.text "3") := by
  have hplace : IsPlaceOf pairEngine (.text "c") 0 := ⟨"c", rfl, by decide +kernel⟩
  have hnormal : Extended.normalForm (.object namedFields) pairEngine.ids
      = (.ok (.object namedFields), pairEngine.ids) := rfl
  have hstored : storedId namedFields = .text "3" := storedId_cons ..
  have hid : IsIdentifier (storedId namedFields) := by
    rw [hstored]
    exact ⟨by simp, rfl, by simp [Value.equals]⟩
  exact id_resolves pairEngine_reachable hplace hnormal hid (hasOnlyId_singleton _)

def numberEngine : Engine :=
  (run Clock.epoch.now (.call (.createOne (.text "c") (.object [(.text "_id", .int 1)])))
    (onEmpty "d")).2

def truthFields : Fields := [(.text "_id", .bool true)]

/--
An upsert without a key can be refused because the identifier is taken, though no document is found
by it.
-/
theorem upsert_clashes
    : ¬ ∀ (e : Engine) (name v : Value) (i : Nat) (fs gs : Fields) (ids : IdSupply) (clock : Clock),
      e.Reachable →
        IsPlaceOf e name i → HaveUniqueIds (e.store i).documents →
        Extended.normalForm (.object fs) e.ids = (.ok (.object gs), ids) →
          IsIdentifier (storedId gs) →
        HasOnlyId fs v → v.IsRead → IsLasting v →
        isDuplicate (run clock.now (.call (.upsertOne name (.object fs) .null)) e).1 = false := by
  intro h
  have hreachable : numberEngine.Reachable :=
    (Reachable.start { root := "d" } {}).steps (run_steps .epoch _ _)
  have hplace : IsPlaceOf numberEngine (.text "c") 0 := ⟨"c", rfl, by decide +kernel⟩
  have hunique : HaveUniqueIds (numberEngine.store 0).documents := by
    unfold HaveUniqueIds AreUnequal
    decide +kernel
  have hnormal : Extended.normalForm (.object truthFields) numberEngine.ids
      = (.ok (.object truthFields), numberEngine.ids) := rfl
  have hstored : storedId truthFields = .bool true := storedId_cons ..
  have hself : (Value.bool true).equals (.bool true) = true := by
    simp [Value.equals, Value.equalsInteger, Value.integer?]
  have hid : IsIdentifier (storedId truthFields) := by
    rw [hstored]
    exact ⟨by simp, rfl, hself⟩
  have honly : HasOnlyId truthFields (.bool true) := hasOnlyId_singleton _
  have hclash : isDuplicate (run Clock.epoch.now
      (.call (.upsertOne (.text "c") (.object truthFields) .null)) numberEngine).1 = true := by
    decide +kernel
  rw [h _ _ _ _ _ _ _ .epoch hreachable hplace hunique hnormal hid honly (.bool true) ⟨rfl, hself⟩]
    at hclash
  cases hclash

end Engine

end DocStore
