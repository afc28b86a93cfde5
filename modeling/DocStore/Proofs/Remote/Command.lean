import DocStore.Proofs.Engine.Durable
import DocStore.Proofs.Remote.Talk

/-!
This module contains the commands that each call of a connector sends, and how the faults that the
server raises to them are told.
-/

namespace DocStore.Remote

open Work

def Command.writes : Command → Bool
  | .insertOne _ => true
  | .insertMany _ => true
  | .updateOne .. => true
  | .updateMany .. => true
  | _ => false

def fieldsOnInsert (fs : Fields) (now : Moment) : Fields :=
  (.text Document.createdAt, .date now) :: (match (Fields.getD fs Document.idField).normalizeId with
    | .null => []
    | id => idQuery id)

inductive Sends (now : Moment) : Call → Command → Prop where
  | createOne {collection fs} : Sends now (.createOne collection (.object fs))
      (.insertOne (payload fs now))
  | createMany {collection docs fss} (items : docs.items = .ok (fss.map .object))
      (some : fss ≠ []) :
      Sends now (.createMany collection docs) (.insertMany (fss.map (payload · now)))
  | updateOne {collection doc fs id patch} (fields : Document.fieldsOf doc = .ok fs)
      (split : Document.splitId fs = (id, patch)) (present : id ≠ .null) :
      Sends now (.updateOne collection doc)
      (.updateOne (idQuery id) ⟨changedFields patch now, none⟩ false)
  | updateMany {collection query patch prepared} (prepare : prepareQuery query = .ok prepared) :
      Sends now (.updateMany collection query (.object patch))
      (.updateMany prepared ⟨changedFields patch now, none⟩)
  | upsertById {collection doc key given key' fs} (fields : Document.fieldsOf doc = .ok given)
      (resolve : Document.resolveKey given key = .ok (key', fs)) :
      Sends now (.upsertOne collection doc key)
        (.updateOne (idQuery (Fields.getD fs Document.idField).normalizeId)
          ⟨changedFields fs now, none⟩ false)
  | upsertByKey {collection doc key given key' fs} (fields : Document.fieldsOf doc = .ok given)
      (resolve : Document.resolveKey given key = .ok (key', fs)) :
      Sends now (.upsertOne collection doc key)
        (.updateOne [(key', (Fields.get? fs key').getD .null)]
          ⟨changedFields fs now, some (fieldsOnInsert fs now)⟩ true)
  | upsertNew {collection doc key given key' fs} (fields : Document.fieldsOf doc = .ok given)
      (resolve : Document.resolveKey given key = .ok (key', fs)) :
      Sends now (.upsertOne collection doc key) (.insertOne (payload fs now))
  | other {c command} (h : command.writes = false) : Sends now c command

def hasDuplicateCode (fs : Fields) : Bool :=
  ((Fields.get? fs (.text "code")).getD .null).equals duplicateKeyCode

inductive FirstTaken : List Value → Fields → Prop where
  | here {fs es} (code : hasDuplicateCode fs = true) : FirstTaken (.object fs :: es) fs
  | later {fs es error} (code : hasDuplicateCode fs = false) (rest : FirstTaken es error) :
      FirstTaken (.object fs :: es) error

inductive TellsDuplicate : Value → Value → Prop where
  | intro {details errors error op}
      (items : ((Fields.get? details (.text "writeErrors")).getD (.list [])).items = .ok errors)
      (first : FirstTaken errors error)
      (document : (Fields.get? error (.text "op")).getD (.object []) = .object op) :
      TellsDuplicate (.object details) (Fields.getD op Document.idField).normalizeId

inductive Surfaces (collection : Value) : Command → RemoteFault → Error → Prop where
  | taken {payload text} :
      Surfaces collection (.insertOne payload) (.duplicateKey text)
        (.duplicateKey collection (Fields.getD payload Document.idField).normalizeId)
  | takenOfMany {payloads details id} (h : TellsDuplicate details id) :
      Surfaces collection (.insertMany payloads) (.bulkWrite details) (.duplicateKey collection id)
  | noneTaken {payloads details err} (none : ∀ id, ¬ TellsDuplicate details id)
      (h : ∀ id, err ≠ .duplicateKey collection id) :
      Surfaces collection (.insertMany payloads) (.bulkWrite details) err
  | insertOther {payload f} (h : ∀ text, f ≠ .duplicateKey text) :
      Surfaces collection (.insertOne payload) f (.remote f)
  | insertManyOther {payloads f} (h : ∀ details, f ≠ .bulkWrite details) :
      Surfaces collection (.insertMany payloads) f (.remote f)
  | updateOne {query change upsert f} : Surfaces collection (.updateOne query change upsert) f
      (.remote f)
  | updateMany {query change f} : Surfaces collection (.updateMany query change) f (.remote f)
  | other {command f} (h : command.writes = false) : Surfaces collection command f (.remote f)

def OnlySends (collection : Value) (Q : Command → Prop) : ClientCall → Prop
  | .command _ other command => other = collection ∧ Q command
  | _ => True

def TellsFaults (collection : Value) : ClientCall → RemoteFault → Error → Prop
  | .command _ _ command, f, err => Surfaces collection command f err
  | _, _, _ => True

theorem FirstTaken.unique {es : List Value} {error other : Fields} (h : FirstTaken es error)
    (h' : FirstTaken es other)
    : error = other := by
  induction h with
  | here code =>
    cases h' with
    | here => rfl
    | later code' => rw [code] at code'; cases code'
  | later code _ ih =>
    cases h' with
    | here code' => rw [code] at code'; cases code'
    | later _ rest => exact ih rest

theorem entry_object (fs : Fields) (name : String) (default : Value)
    : entry (.object fs) name default = pure ((Fields.get? fs (.text name)).getD default) := rfl

theorem entry_other {v : Value} (name : String) (default : Value) (h : ∀ fs, v ≠ .object fs)
    : entry v name default = throw (.fault .noOperation) := by
  unfold entry objectFields
  cases v with
  | object fs => exact absurd rfl (h fs)
  | _ => rfl

theorem firstDuplicate_cases (es : List Value)
    : (∃ error, FirstTaken es error ∧ firstDuplicate es = pure (some (.object error)))
      ∨ (∀ error, ¬ FirstTaken es error)
        ∧ (firstDuplicate es = pure none ∨ firstDuplicate es = throw (.fault .noOperation)) := by
  induction es with
  | nil => exact .inr ⟨nofun, .inl rfl⟩
  | cons e es ih =>
    unfold firstDuplicate
    by_cases hobject : ∃ fs, e = .object fs
    . obtain ⟨fs, rfl⟩ := hobject
      rw [entry_object, pure_bind]
      change (∃ error, FirstTaken (.object fs :: es) error
          ∧ (if hasDuplicateCode fs = true then pure (some (.object fs)) else
            firstDuplicate es : Exchange _) = _) ∨ _ ∧
        ((if hasDuplicateCode fs = true then _ else firstDuplicate es : Exchange _) = _
          ∨ (if hasDuplicateCode fs = true then _ else firstDuplicate es : Exchange _) = _)
      cases hcode : hasDuplicateCode fs with
      | true => exact .inl ⟨fs, .here hcode, rfl⟩
      | false =>
        rcases ih with ⟨error, hfirst, hrun⟩ | ⟨hnone, hrun⟩
        . exact .inl ⟨error, .later hcode hfirst, hrun⟩
        . refine .inr ⟨fun error h => ?_, hrun⟩
          cases h with
          | here hcode' => rw [hcode] at hcode'; cases hcode'
          | later _ rest => exact hnone error rest
    . have hother : ∀ fs, e ≠ .object fs := fun fs h => hobject ⟨fs, h⟩
      rw [entry_other _ _ hother]
      refine .inr ⟨fun error h => ?_, .inr rfl⟩
      cases h with
      | here => exact hother _ rfl
      | later => exact hother _ rfl

theorem tellsDuplicate_iff {fs : Fields} {errors : List Value} {id : Value}
    (hitems : ((Fields.get? fs (.text "writeErrors")).getD (.list [])).items = .ok errors)
    : TellsDuplicate (.object fs) id ↔ ∃ error op, FirstTaken errors error
        ∧ (Fields.get? error (.text "op")).getD (.object []) = .object op
        ∧ id = (Fields.getD op Document.idField).normalizeId := by
  constructor
  . intro h
    cases h with
    | intro items first document =>
      rw [hitems] at items
      cases items
      exact ⟨_, _, first, document, rfl⟩
  . rintro ⟨error, op, hfirst, hop, rfl⟩
    exact .intro hitems hfirst hop

theorem takenError_throw {α : Type} (collection : Value) (error : Fields)
    : ∃ err, (do
        let id ← entry (← entry (.object error) "op" (.object [])) Document.idField .null
        throw (.duplicateKey collection id.normalizeId) : Exchange α) = throw err
      ∧ ∀ id, err = .duplicateKey collection id ↔
        ∃ op, (Fields.get? error (.text "op")).getD (.object []) = .object op
        ∧ id = (Fields.getD op Document.idField).normalizeId := by
  rw [entry_object, pure_bind]
  by_cases hop : ∃ op, (Fields.get? error (.text "op")).getD (.object []) = .object op
  . obtain ⟨op, hop⟩ := hop
    rw [hop, entry_object, pure_bind]
    refine ⟨_, rfl, fun id => ⟨fun h => ?_, fun h => ?_⟩⟩
    . cases h
      exact ⟨op, rfl, rfl⟩
    . obtain ⟨_, he, rfl⟩ := h
      cases he
      rfl
  . rw [entry_other _ _ fun op h => hop ⟨op, h⟩]
    exact ⟨.fault .noOperation, rfl, fun id => ⟨nofun, fun ⟨op, h, _⟩ => absurd ⟨op, h⟩ hop⟩⟩

theorem bulkError_throw {α : Type} (collection details : Value)
    : ∃ err, (bulkError collection details : Exchange α) = throw err
      ∧ ∀ id, err = .duplicateKey collection id ↔ TellsDuplicate details id := by
  have hsilent {details : Value} {err : Error} (hne : ∀ id, err ≠ .duplicateKey collection id)
      (hnot : ∀ id, ¬ TellsDuplicate details id) : ∀ id, err = .duplicateKey collection id ↔
          TellsDuplicate details id :=
    fun id => ⟨fun h => absurd h (hne id), fun h => absurd h (hnot id)⟩
  -- details of another shape tell of no identifier, whatever error they lead to
  unfold bulkError
  by_cases hobject : ∃ fs, details = .object fs
  . obtain ⟨fs, rfl⟩ := hobject
    rw [entry_object, pure_bind]
    cases hitems : ((Fields.get? fs (.text "writeErrors")).getD (.list [])).items with
    | error kind =>
      refine ⟨.fault kind, rfl, hsilent nofun fun id h => ?_⟩
      cases h with
      | intro items => rw [hitems] at items; cases items
    | ok errors =>
      unfold liftFault
      rw [pure_bind]
      rcases firstDuplicate_cases errors with ⟨error, hfirst, hrun⟩ | ⟨hnone, hrun⟩
      . rw [hrun, pure_bind]
        obtain ⟨err, he, htells⟩ := @takenError_throw α collection error
        refine ⟨err, he, fun id => ?_⟩
        rw [htells id, tellsDuplicate_iff hitems]
        constructor
        . rintro ⟨op, hop, hid⟩
          exact ⟨error, op, hfirst, hop, hid⟩
        . rintro ⟨other, op, hother, hop, hid⟩
          cases hfirst.unique hother
          exact ⟨op, hop, hid⟩
      . have hnot : ∀ id, ¬ TellsDuplicate (.object fs) id := by
          intro id h
          rw [tellsDuplicate_iff hitems] at h
          obtain ⟨error, _, hfirst, _⟩ := h
          exact hnone error hfirst
        cases hrun with
        | inl hrun =>
          rw [hrun, pure_bind]
          exact ⟨_, rfl, hsilent nofun hnot⟩
        | inr hrun =>
          rw [hrun]
          exact ⟨_, rfl, hsilent nofun hnot⟩
  . rw [entry_other _ _ fun fs h => hobject ⟨fs, h⟩]
    refine ⟨.fault .noOperation, rfl, hsilent nofun fun id h => ?_⟩
    cases h with
    | intro => exact absurd ⟨_, rfl⟩ hobject

section

variable {α : Type} {collection : Value} {Q : Command → Prop}

theorem serves_databaseFor
    : Talks (OnlySends collection Q) (TellsFaults collection) (databaseFor collection) := by
  apply talks_databaseFor
  . intro call hcall
    cases call with
    | command => cases hcall
    | _ => trivial
  . intro call f hcall
    cases call with
    | command => cases hcall
    | _ => trivial

theorem serves_send {database : Value} {command : Command} (hQ : Q command)
    (hsurfaces : ∀ f, Surfaces collection command f (.remote f))
    : Talks (OnlySends collection Q) (TellsFaults collection) (send database collection command) :=
  talks_send ⟨rfl, hQ⟩ hsurfaces

theorem serves_insert {command : Command} {f : Error → Exchange Result} (hQ : Q command)
    (hf : ∀ err s, (f err s).2 = s)
    (hsurfaces : ∀ fault s, ∃ err, (f (.remote fault) s).1 = .error err ∧
      Surfaces collection command fault err)
    : Talks (OnlySends collection Q) (TellsFaults collection)
        (tryCatch (do send (← databaseFor collection) collection command) f) := by
  have hsend : Talks (OnlySends collection (· = command)) (fun _ fault err => err = .remote fault)
      (do send (← databaseFor collection) collection command) := by
    refine talks_bind ?_ fun db => talks_send ⟨rfl, rfl⟩ fun _ => rfl
    apply talks_databaseFor
    . intro call hcall
      cases call with
      | command => cases hcall
      | _ => trivial
    . intro call fault hcall
      rfl
  have htold : ∀ call fault err s, OnlySends collection (· = command) call → err = .remote fault →
      ∃ err', (f err s).1 = .error err' ∧ TellsFaults collection call fault err' := by
    intro call fault err s hcall herr
    obtain ⟨err', he, hs⟩ := hsurfaces fault s
    rw [herr]
    refine ⟨err', he, ?_⟩
    cases call with
    | command db other c =>
      obtain ⟨_, rfl⟩ := hcall
      exact hs
    | _ => trivial
  refine talks_mono ?_ (fun _ _ _ _ h => h) (talks_tryCatch hsend hf htold)
  intro call hcall
  cases call with
  | command db other c =>
    obtain ⟨hother, rfl⟩ := hcall
    exact ⟨hother, hQ⟩
  | _ => trivial

theorem talks_bind_objectFields {β : Type} {P : ClientCall → Prop}
    {T : ClientCall → RemoteFault → Error → Prop} {doc : Value} {f : Fields → Exchange β}
    (hf : ∀ fs, doc = .object fs → Talks P T (f fs))
    : Talks P T (objectFields doc >>= f) := by
  cases doc with
  | object fs => exact hf fs rfl
  | _ => exact talks_throw _

theorem serves_createOne {now : Moment} {doc : Value}
    (hQ : ∀ fs, doc = .object fs → Q (.insertOne (payload fs now)))
    : Talks (OnlySends collection Q) (TellsFaults collection) (createOne now collection doc) := by
  unfold createOne
  refine talks_bind_objectFields fun fs hobject =>
    talks_bind (serves_insert (hQ fs hobject) ?_ ?_) fun r => ?_
  . intro err s
    split
    . rfl
    . rfl
  . intro fault s
    cases fault with
    | duplicateKey text => exact ⟨_, rfl, .taken⟩
    | bulkWrite details => exact ⟨_, rfl, .insertOther nofun⟩
    | other name text => exact ⟨_, rfl, .insertOther nofun⟩
  . split
    . exact talks_pure _
    . exact talks_throw _

theorem payloads_cases (docs : List Value) (now : Moment)
    : (∃ fss : List Fields, docs = fss.map .object
        ∧ (docs.mapM fun doc => return payload (← objectFields doc) now : Exchange _) =
          pure (fss.map (payload · now)))
      ∨ (docs.mapM fun doc => return payload (← objectFields doc) now : Exchange _) =
        throw (.fault .noOperation) := by
  induction docs with
  | nil => exact .inl ⟨[], rfl, rfl⟩
  | cons doc docs ih =>
    rw [List.mapM_cons]
    by_cases hobject : ∃ fs, doc = .object fs
    . obtain ⟨fs, rfl⟩ := hobject
      unfold objectFields
      rw [pure_bind, pure_bind]
      rcases ih with ⟨fss, rfl, hrun⟩ | hrun
      . refine .inl ⟨fs :: fss, rfl, ?_⟩
        unfold objectFields at hrun
        rw [hrun]
        rfl
      . refine .inr ?_
        unfold objectFields at hrun
        rw [hrun]
        rfl
    . refine .inr ?_
      unfold objectFields
      cases doc with
      | object fs => exact absurd ⟨fs, rfl⟩ hobject
      | _ => rfl

theorem serves_createMany {now : Moment} {docs : Value}
    (hQ : ∀ fss, docs.items = .ok (fss.map .object) → fss ≠ [] →
      Q (.insertMany (fss.map (payload · now))))
    : Talks (OnlySends collection Q) (TellsFaults collection) (createMany now collection docs) := by
  unfold createMany
  cases hitems : docs.items with
  | error kind => exact talks_throw _
  | ok given =>
    unfold liftFault
    rw [pure_bind]
    cases given with
    | nil => exact talks_pure _
    | cons doc docs =>
      dsimp only
      rcases payloads_cases (doc :: docs) now with ⟨fss, hdocs, hrun⟩ | hrun
      . rw [hrun, pure_bind]
        have hsome : fss ≠ [] := by
          rintro rfl
          cases hdocs
        rw [hdocs] at hitems
        refine talks_bind (serves_insert (hQ fss hitems hsome) ?_ ?_) fun r => ?_
        . intro err s
          split
          . obtain ⟨_, he, _⟩ := @bulkError_throw Result collection ‹Value›
            rw [he]
            rfl
          . rfl
        . intro fault s
          cases fault with
          | duplicateKey text => exact ⟨_, rfl, .insertManyOther nofun⟩
          | bulkWrite details =>
            obtain ⟨err, he, htells⟩ := @bulkError_throw Result collection details
            dsimp only
            rw [he]
            refine ⟨err, rfl, ?_⟩
            by_cases htaken : ∃ id, TellsDuplicate details id
            . obtain ⟨id, hid⟩ := htaken
              rw [(htells id).mpr hid]
              exact .takenOfMany hid
            . exact .noneTaken (fun id hid => htaken ⟨id, hid⟩) fun id he =>
                htaken ⟨id, (htells id).mp he⟩
          | other name text => exact ⟨_, rfl, .insertManyOther nofun⟩
        . split
          . exact talks_bind (talks_liftFault _) fun _ => talks_pure _
          . exact talks_throw _
      . rw [hrun]
        exact talks_throw _

end

def Serves {α : Type} (now : Moment) (c : Call) (x : Exchange α) : Prop :=
  Talks (OnlySends c.collection (Sends now c)) (TellsFaults c.collection) x

theorem upsertOne_serves (now : Moment) (collection doc key : Value)
    : Serves now (.upsertOne collection doc key) (upsertOne now collection doc key) := by
  unfold upsertOne
  refine talks_bind_liftFault fun given hfields => talks_bind_lift fun resolved hresolve => ?_
  obtain ⟨key', fs⟩ := resolved
  have hbyId : ∀ db, Serves now (.upsertOne collection doc key) (send db collection
      (.updateOne (idQuery (Fields.getD fs Document.idField).normalizeId)
          ⟨changedFields fs now, none⟩ false)) :=
    fun db => serves_send (.upsertById hfields hresolve) fun _ => .updateOne
  have hbyKey : ∀ db, Serves now (.upsertOne collection doc key) (send db collection
      (.updateOne [(key', (Fields.get? fs key').getD .null)]
        ⟨changedFields fs now, some (fieldsOnInsert fs now)⟩ true)) :=
    fun db => serves_send (.upsertByKey hfields hresolve) fun _ => .updateOne
  have hnew : Serves now (.upsertOne collection doc key) (createOne now collection (.object fs)) :=
    serves_createOne fun _ hobject => by cases hobject; exact .upsertNew hfields hresolve
  unfold fieldsOnInsert at hbyKey
  refine talks_bind serves_databaseFor fun db => ?_
  dsimp only
  generalize (Fields.getD fs Document.idField).normalizeId = id at hbyId hbyKey
  split
  case' h_1 => refine talks_bind (talks_pure none) ?_
  case' h_2 => refine talks_bind (talks_bind (hbyId db) fun r => talks_pure (some r)) ?_
  -- What the command by the identifier has come to decides how it goes on, whether or not there was
  -- one.
  all_goals
    intro byId
    split
    . exact talks_pure _
    . exact talks_bind hnew fun _ => talks_pure _
    . refine talks_bind (hbyKey db) fun r => ?_
      split
      . exact talks_pure _
      . exact talks_pure _

theorem createMany_serves (now : Moment) (collection docs : Value)
    : Serves now (.createMany collection docs) (createMany now collection docs) :=
  serves_createMany fun _ hitems hsome => .createMany hitems hsome

theorem find_serves (now : Moment) (collection query limit skip sort : Value)
    : Serves now (.find collection query limit skip sort)
      (find collection query limit skip sort) := by
  unfold find
  refine talks_bind (talks_lift _) fun _ => talks_bind (talks_lift _) fun _ => ?_
  refine talks_bind serves_databaseFor fun db => talks_bind (talks_liftFault _) fun prepared => ?_
  refine talks_bind (serves_send (.other rfl) fun _ => .other rfl) fun r => ?_
  refine talks_bind (talks_record (fun _ => rfl) (fun _ => rfl) trivial) fun _ => ?_
  refine talks_bind (talks_record (fun _ => rfl) (fun _ => rfl) trivial) fun _ =>
    talks_bind (talks_lift _) fun keys => ?_
  have hdocs : Serves now (.find collection query limit skip sort) (do
      let docs ← liftFault r.documents.items
      docs.mapM fun d => liftFault (publicDocument d)) := by
    exact talks_bind (talks_liftFault _) fun docs => talks_mapM (fun _ => talks_liftFault _) docs
  split
  . exact hdocs
  . exact hdocs
  . exact talks_bind (talks_record (fun _ => rfl) (fun _ => rfl) trivial) fun _ => hdocs

theorem run_serves (now : Moment) (c : Call) : Serves now c (run now c) := by
  cases c with
  | createOne collection doc =>
    refine talks_bind (serves_createOne fun fs hobject => ?_) fun _ => talks_pure _
    subst hobject
    exact .createOne
  | createMany collection docs =>
    exact talks_bind (createMany_serves now collection docs) fun _ => talks_pure _
  | upsertOne collection doc key =>
    exact talks_bind (upsertOne_serves now collection doc key) fun _ => talks_pure _
  | find collection query limit skip sort =>
    exact talks_bind (find_serves now collection query limit skip sort) fun _ => talks_pure _
  | findOne collection query sort =>
    refine talks_bind serves_databaseFor fun db => talks_bind (talks_liftFault _) fun query => ?_
    refine talks_bind (talks_lift _) fun keys => ?_
    refine talks_bind (serves_send (.other rfl) fun _ => .other rfl) fun r => ?_
    exact talks_bind (talks_liftFault _) fun _ => talks_pure _
  | findById collection id =>
    refine talks_bind serves_databaseFor fun db => ?_
    refine talks_bind (serves_send (.other rfl) fun _ => .other rfl) fun r => ?_
    exact talks_bind (talks_liftFault _) fun _ => talks_pure _
  | count collection query =>
    refine talks_bind serves_databaseFor fun db => talks_bind (talks_liftFault _) fun query => ?_
    exact talks_bind (serves_send (.other rfl) fun _ => .other rfl) fun r => talks_pure _
  | updateOne collection doc =>
    refine talks_bind_liftFault fun fs hfields => ?_
    split
    . exact talks_throw _
    . rename_i id patch hpresent hsplit
      refine talks_bind serves_databaseFor fun db => ?_
      exact talks_bind (serves_send (.updateOne hfields hsplit hpresent) fun _ => .updateOne)
        fun r => talks_pure _
  | updateMany collection query patch =>
    refine talks_bind serves_databaseFor fun db => talks_bind_liftFault fun prepared hprepare => ?_
    refine talks_bind_objectFields fun fs hobject => ?_
    subst hobject
    exact talks_bind (serves_send (.updateMany hprepare) fun _ => .updateMany) fun r => talks_pure _
  | deleteOne collection id =>
    refine talks_bind serves_databaseFor fun db => ?_
    exact talks_bind (serves_send (.other rfl) fun _ => .other rfl) fun r => talks_pure _
  | deleteMany collection query =>
    refine talks_bind serves_databaseFor fun db => talks_bind (talks_liftFault _) fun query => ?_
    exact talks_bind (serves_send (.other rfl) fun _ => .other rfl) fun r => talks_pure _

end DocStore.Remote
