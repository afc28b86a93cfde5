import DocStore.Proofs.Remote.Holdings

/-!
This module contains what becomes of the calls of a connector at a server that stores what it is
sent: the documents that are inserted are held under the identifiers that are reported, and those
that are held are found.
-/

namespace DocStore

namespace Fields

theorem getD_under (fs : Fields) (name : String) : getD (fs.under name) name = getD fs name := by
  unfold getD under
  rw [get?_filter fun f _ hf => Value.equals_text.mpr hf]

end Fields

namespace Report

def newIds? : Report → Option (List Value)
  | .created id => some [id]
  | .createdMany ids => some ids
  | .upserted id => some [id]
  | _ => none

end Report

def Answer.newIds? : Answer → Option (List Value)
  | .report r => r.newIds?
  | _ => none

def Call.isUpsert : Call → Bool
  | .upsertOne .. => true
  | _ => false

namespace Remote

open Work

open Collection (idOf)

inductive Inserts (mayChange : Bool) (docs : List Fields) (held : List Value)
    (told : List (Command × Reply)) :
    Except Error (Option (List Value)) → List Value → Prop where
  | failed {err held'} (unserved : Unserved told) (lasts : held ⊆ held') :
      Inserts mayChange docs held told (.error err) held'
  | changed (h : mayChange = true) : Inserts mayChange docs held told (.ok none) held
  | inserted {ks} (placed : List.Forall₂ (fun doc k => IsPlaced (idOf doc).atServer k) docs ks) :
      Inserts mayChange docs held told (.ok (some (ks.map Value.normalizeId))) (held ++ ks)

theorem Inserts.mayChange {docs : List Fields} {held held' : List Value}
    {told : List (Command × Reply)} {out : Except Error (Option (List Value))}
    (h : Inserts false docs held told out held')
    : Inserts true docs held told out held' := by
  cases h with
  | failed unserved lasts => exact .failed unserved lasts
  | changed h => cases h
  | inserted placed => exact .inserted placed

theorem Unserved.after {told more : List (Command × Reply)} (h : Unserved more) (hmore : more ≠ [])
    : Unserved (told ++ more) := by
  rcases h with rfl | ⟨command, f, hf⟩
  . exact absurd rfl hmore
  . exact .inr ⟨command, f, List.mem_append_right _ hf⟩

theorem Inserts.after {mayChange : Bool} {docs : List Fields} {held held' : List Value}
    {told more : List (Command × Reply)} {out : Except Error (Option (List Value))}
    (h : Inserts mayChange docs held more out held') (hmore : more ≠ [])
    : Inserts mayChange docs held (told ++ more) out held' := by
  cases h with
  | failed unserved lasts => exact .failed (unserved.after hmore) lasts
  | changed h => exact .changed h
  | inserted placed => exact .inserted placed

theorem Inserts.congr {mayChange : Bool} {doc doc' : Fields} {held held' : List Value}
    {told : List (Command × Reply)} {out : Except Error (Option (List Value))}
    (h : Inserts mayChange [doc] held told out held') (hid : idOf doc = idOf doc')
    : Inserts mayChange [doc'] held told out held' := by
  cases h with
  | failed unserved lasts => exact .failed unserved lasts
  | changed h => exact .changed h
  | inserted placed =>
    cases placed with
    | cons first rest =>
      rw [hid] at first
      exact .inserted (.cons first rest)

theorem idOf_sentId (id : Value) : idOf (sentId id) = id.atServer := by
  unfold sentId
  split
  . rfl
  . exact Fields.getD_cons_self _ _ _

theorem idOf_payload (doc : Fields) (now : Moment)
    : idOf (payload doc now) = (idOf doc).atServer := by
  have hid := (payload_isNew doc now).id
  rw [← idOf_sentId, idOf, idOf, ← Fields.getD_under, hid, idOf]

theorem idOf_fieldsOnInsert (fs : Fields) (now : Moment)
    : idOf (fieldsOnInsert fs now) = (idOf fs).atServer := by
  have hnormal : (idOf fs).normalizeId.atServer = (idOf fs).atServer := by
    unfold Value.atServer
    rw [Value.normalizeId_idem]
  rw [← hnormal, ← idOf_sentId, fieldsOnInsert_eq, idOf, ← Fields.getD_under, Fields.under_append,
    Fields.under_ne (by decide), under_sentId]
  rfl

section

variable {now : Moment} {s t : State} {collection : Value}

theorem meets_insert {α : Type} {command : Command} {f : Error → Exchange Result}
    {g : Result → Exchange α}
    {Q : List Value → List (Command × Reply) → Except Error α → List Value → Prop}
    (hf : ∀ err, ∃ err', f err = throw err') (hsilent : ∀ r t, Tells t [] (g r t).2)
    (hresult : ∀ r t held held', Stores held command (.result r) held' →
      Q held [(command, .result r)] (g r t).1 held')
    (hfailure : ∀ fault err held held', Stores held command (.failure fault) held' →
      Q held [(command, .failure fault)] (.error err) held')
    (hclosed : ¬ s.Reaches collection → ∀ err held, Q held [] (.error err) held)
    : Meets s (tryCatch (do send (← databaseFor collection) collection command) f >>= g) Q := by
  have hopen := tells_databaseFor collection s
  rcases hdb : databaseFor collection s with ⟨r, t⟩
  rw [hdb] at hopen
  cases r with
  | error err =>
    obtain ⟨err', hrun⟩ :=
      tryCatch_fails g hf (bind_error hdb (f := fun db => send db collection command))
    refine meets_error hrun hopen (hclosed ?_ err')
    intro hreaches
    obtain ⟨db, hok⟩ := hreaches.databaseFor
    rw [hdb] at hok
    cases hok
  | ok db =>
    have hsend : (do send (← databaseFor collection) collection command) s
        = (t.server.reply.outcome, t.sent db collection command) := by
      rw [bind_ok hdb, send_eq]
    have htells := hopen.trans (tells_sent t db collection command)
    unfold Meets
    cases hreply : t.server.reply with
    | failure fault =>
      rw [hreply] at hsend htells
      obtain ⟨err', hrun⟩ := tryCatch_fails g hf hsend
      rw [hrun]
      exact ⟨_, htells, fun held held' hstores =>
        hfailure fault err' held held' (storesAll_singleton hstores)⟩
    | result r =>
      rw [hreply] at hsend htells
      rw [bind_ok (tryCatch_ok hsend)]
      refine ⟨_, htells.trans (hsilent r _), ?_⟩
      exact fun held held' hstores => hresult r _ held held' (storesAll_singleton hstores)

theorem stores_failure {held held' : List Value} {command : Command} {f : RemoteFault}
    (h : Stores held command (.failure f) held') : held ⊆ held' := by
  cases h with
  | insertedSome => exact List.subset_append_left _ _
  | failed => exact List.Subset.refl _

theorem createOne_meets (now : Moment) (s : State) (collection : Value) (fs : Fields)
    : Meets s (createOne now collection (.object fs)) fun held told r held' =>
        (s.Reaches collection → told ≠ [])
          ∧ Inserts false [fs] held told (r.map fun id => some [id]) held' := by
  unfold createOne objectFields
  rw [pure_bind]
  apply meets_insert
  . intro err
    split
    . exact ⟨_, rfl⟩
    . exact ⟨_, rfl⟩
  . intro r t
    cases r.insertedId with
    | some id => exact .refl t
    | none => exact .refl t
  . intro r t held held' hstores
    refine ⟨fun _ => List.cons_ne_nil _ _, ?_⟩
    cases hstores with
    | inserted placed tells =>
      rw [tells]
      rw [idOf_payload] at placed
      exact .inserted (.cons placed .nil)
  . intro fault err held held' hstores
    exact ⟨fun _ => List.cons_ne_nil _ _, .failed (unserved_failure _ _) (stores_failure hstores)⟩
  . intro hclosed err held
    exact ⟨fun hreaches => absurd hreaches hclosed, .failed (.inl rfl) (List.Subset.refl _)⟩

theorem payloads_map (fss : List Fields) (now : Moment)
    : ((fss.map .object).mapM fun doc => return payload (← objectFields doc) now : Exchange _)
      = pure (fss.map (payload · now)) := by
  induction fss with
  | nil => rfl
  | cons fs fss ih =>
    rw [List.map_cons, List.mapM_cons, ih]
    rfl

theorem createMany_meets (now : Moment) (s : State) (collection : Value) {docs : Value}
    {fss : List Fields} (hitems : docs.items = .ok (fss.map .object))
    : Meets s (createMany now collection docs) fun held told r held' =>
        Inserts false fss held told (r.map some) held' := by
  unfold createMany liftFault
  rw [hitems]
  dsimp only
  rw [pure_bind]
  cases fss with
  | nil =>
    refine meets_silent (.refl s) fun held => ?_
    have hinserted := @Inserts.inserted false [] held [] [] .nil
    rwa [List.append_nil] at hinserted
  | cons fs fss =>
    rw [List.map_cons]
    dsimp only
    rw [← List.map_cons, payloads_map, pure_bind]
    apply meets_insert
    . intro err
      split
      . obtain ⟨err, he, _⟩ := @bulkError_throw Result collection ‹Value›
        exact ⟨err, he⟩
      . exact ⟨_, rfl⟩
    . intro r t
      cases r.insertedIds with
      | some ids => exact tells_of_talks (talks_bind (talks_liftFault _) fun _ => talks_pure _) t
      | none => exact .refl t
    . intro r t held held' hstores
      cases hstores with
      | @insertedMany _ ks _ placed tells =>
        rw [tells]
        refine .inserted ?_
        rw [List.forall₂_map_left_iff] at placed
        simp only [idOf_payload] at placed
        exact placed
    . intro fault err held held' hstores
      exact .failed (unserved_failure _ _) (stores_failure hstores)
    . intro _ err held
      exact .failed (.inl rfl) (List.Subset.refl _)

theorem changeByKey_meets (now : Moment) (s : State) (db collection : Value) (fs : Fields)
    (key : Value)
    : Meets s (changeByKey now db collection fs key) fun held told r held' =>
        told ≠ [] ∧ Inserts true [fs] held told (r.map Report.newIds?) held' := by
  unfold changeByKey
  apply meets_bind_send
  . intro r t
    cases r.upsertedId <;> exact .refl t
  . intro r t held held' hstores
    refine ⟨List.cons_ne_nil _ _, ?_⟩
    cases hstores with
    | upserted placed tells =>
      rw [Option.getD_some, idOf_fieldsOnInsert] at placed
      cases hid : r.upsertedId with
      | null => exact absurd (tells.symm.trans hid) placed.ne_null
      | _ =>
        rw [hid] at tells
        subst tells
        exact .inserted (.cons placed .nil)
    | updated tells =>
      rw [tells]
      exact .changed rfl
  . intro fault held held' hstores
    exact ⟨List.cons_ne_nil _ _, .failed (unserved_failure _ _) (stores_failure hstores)⟩

theorem changeOrInsert_meets {byId : Option Result}
    (hnone : byId.filter (·.matched.isTruthy) = none) (hreaches : s.Reaches collection)
    (now : Moment) (db : Value) (fs : Fields) (key : Value)
    : Meets s (changeOrInsert now db collection fs key byId) fun held told r held' =>
        told ≠ [] ∧ Inserts true [fs] held told (r.map Report.newIds?) held' := by
  have hbyKey := changeByKey_meets now s db collection fs key
  unfold changeOrInsert
  rw [hnone]
  cases key with
  | null =>
    apply meets_map
    apply (createOne_meets now s collection fs).imp
    rintro held told r held' ⟨htold, hinserts⟩
    refine ⟨htold hreaches, ?_⟩
    cases r <;> exact hinserts.mayChange
  | _ => exact hbyKey

theorem changeById_meets (hreaches : s.Reaches collection) (now : Moment) (db : Value) (fs : Fields)
    (key : Value)
    : Meets s (changeById now db collection fs >>= changeOrInsert now db collection fs key)
      fun held told r held' =>
        Inserts true [fs] held told (r.map Report.newIds?) held' := by
  by_cases hid : Fields.getD fs Document.idField = .null
  . apply meets_bind_silent (changeById_absent hid now db collection s) (.refl s)
    apply (changeOrInsert_meets rfl hreaches now db fs key).imp
    exact fun held told r held' h => h.2
  . have hbyId := changeById_present hid now db collection s
    have hsent := tells_sent s db collection (updateById now fs)
    cases hreply : s.server.reply with
    | failure f =>
      rw [hreply] at hbyId hsent
      unfold Meets
      rw [bind_error hbyId]
      refine ⟨_, hsent, fun held held' hstores => ?_⟩
      exact .failed (unserved_failure _ _) (stores_failure (storesAll_singleton hstores))
    | result r =>
      rw [hreply] at hbyId hsent
      -- the command inserts nothing, so that what is held afterwards is what the next command finds
      have hkept : ∀ held mid, StoresAll held [(updateById now fs, .result r)] mid →
          mid = held := by
        intro held mid hstores
        cases storesAll_singleton hstores with
        | updated => rfl
      apply meets_bind_told hbyId hsent
      cases hmatched : r.matched.isTruthy with
      | true =>
        have hfound : (some r).filter (·.matched.isTruthy) = some r := by
          rw [Option.filter_some, if_pos hmatched]
        unfold changeOrInsert
        rw [hfound]
        apply meets_silent (.refl _)
        intro mid held hstores
        rw [hkept held mid hstores]
        exact .changed rfl
      | false =>
        have hnone : (some r).filter (·.matched.isTruthy) = none := by
          rw [Option.filter_some, hmatched]
          rfl
        have hreaches' := hreaches.sent db collection (updateById now fs)
        apply (changeOrInsert_meets hnone hreaches' now db fs key).imp
        rintro mid more out held' ⟨hmore, hinserts⟩ held hstores
        rw [hkept held mid hstores] at hinserts
        exact hinserts.after hmore

theorem upsertOne_meets (now : Moment) (s : State) (collection key : Value) {doc : Value}
    {given : Fields} (hfields : Document.fieldsOf doc = .ok given)
    : Meets s (upsertOne now collection doc key) fun held told r held' =>
        Inserts true [given] held told (r.map Report.newIds?) held' := by
  cases hresolve : Document.resolveKey given key with
  | error err =>
    apply meets_error (upsertOne_unkeyed hfields hresolve) (.refl s)
    exact fun held => .failed (.inl rfl) (List.Subset.refl _)
  | ok resolved =>
    obtain ⟨key', fs⟩ := resolved
    have htells := tells_databaseFor collection s
    rcases hdb : databaseFor collection s with ⟨r, t⟩
    rw [hdb] at htells
    cases r with
    | error err =>
      apply meets_error (upsertOne_unopened hfields hresolve hdb) htells
      exact fun held => .failed (.inl rfl) (List.Subset.refl _)
    | ok db =>
      apply meets_of_eq (upsertOne_opened hfields hresolve hdb) htells
      apply (changeById_meets (databaseFor_again hdb) now db fs key').imp
      exact fun held told r held' h => h.congr (Document.getD_resolveKey hresolve)

end

def IsPublic (held : List Value) (query : Fields) (d : Value) : Prop :=
  ∃ fs k, d = .object fs ∧ k ∈ held ∧ idOf fs = k.normalizeId ∧
    ((idOf query).isName = true → k = idOf query)

def IsSeen (held : List Value) (query : Fields) (d : Value) : Prop :=
  d = .null ∧ Misses held query ∨ IsPublic held query d

theorem IsFrom.publicDocument {held : List Value} {query : Fields} {doc : Value}
    (h : IsFrom held query doc)
    : ∃ d, publicDocument doc = .ok d ∧ IsPublic held query d := by
  obtain ⟨fs, rfl, hheld, hasked⟩ := h
  unfold Remote.publicDocument
  dsimp only
  split
  next i hi =>
    refine ⟨_, rfl, _, idOf fs, rfl, hheld, ?_, hasked⟩
    rw [idOf, Fields.getD_insert_self, idOf, hi]
  next hid =>
    refine ⟨_, rfl, fs, idOf fs, rfl, hheld, ?_, hasked⟩
    unfold Value.normalizeId
    split
    next i hi => exact absurd hi (hid i)
    . rfl

theorem mapM_publicDocument {held : List Value} {query : Fields} {ds : List Value}
    (h : ∀ d ∈ ds, IsFrom held query d)
    : ∃ shown, (ds.mapM fun d => liftFault (publicDocument d) : Exchange _) = pure shown
        ∧ ∀ d ∈ shown, IsPublic held query d := by
  induction ds with
  | nil => exact ⟨[], rfl, nofun⟩
  | cons d ds ih =>
    rw [List.forall_mem_cons] at h
    obtain ⟨shown, hrun, hshown⟩ := ih h.2
    obtain ⟨d', hd, hpublic⟩ := h.1.publicDocument
    refine ⟨d' :: shown, ?_, List.forall_mem_cons.mpr ⟨hpublic, hshown⟩⟩
    rw [List.mapM_cons, hd, hrun]
    rfl

def Shows (held : List Value) (query : Value) (out : Except Error (List Value)) : Prop :=
  ∀ ds, out = .ok ds → ∃ prepared, prepareQuery query = .ok prepared ∧
    ∀ d ∈ ds, IsPublic held prepared d

theorem shows_error (held : List Value) (query : Value) (err : Error)
    : Shows held query (.error err) := nofun

theorem shows_shown {held : List Value} {query : Value} {prepared : Fields} {shown : List Value}
    (hprepared : prepareQuery query = .ok prepared) (h : ∀ d ∈ shown, IsPublic held prepared d)
    : Shows held query (.ok shown) := by
  rintro ds ⟨⟩
  exact ⟨prepared, hprepared, h⟩

theorem find_meets (s : State) (collection query limit skip sort : Value)
    : Meets s (find collection query limit skip sort) fun held _ r held' => held' = held ∧
      Shows held query r := by
  have hunsent : ∀ err held, held = held ∧ Shows held query (.error err) :=
    fun err held => ⟨rfl, shows_error held query err⟩
  unfold find
  refine meets_bind_lift (fun _ _ => meets_bind_lift (fun _ _ => ?_) hunsent) hunsent
  refine meets_bind_databaseFor
    (fun db t _ => meets_bind_liftFault (fun prepared hprepared => ?_) hunsent) hunsent
  apply meets_bind_send
  . intro r t
    refine tells_of_talks ?_ t
    refine talks_bind (talks_record (fun _ => rfl) (fun _ => rfl) rfl) fun _ => ?_
    refine talks_bind (talks_record (fun _ => rfl) (fun _ => rfl) rfl) fun _ =>
      talks_bind (talks_lift _) fun keys => ?_
    have hdocs : Talks (fun call => call.isCommand = false) (fun _ _ _ => True) (do
        let docs ← liftFault r.documents.items
        docs.mapM fun d => liftFault (publicDocument d) : Exchange _) :=
      talks_bind (talks_liftFault _) fun docs => talks_mapM (fun _ => talks_liftFault _) docs
    split
    . exact hdocs
    . exact hdocs
    . exact talks_bind (talks_record (fun _ => rfl) (fun _ => rfl) rfl) fun _ => hdocs
  . intro r t held held' hstores
    cases hstores with
    | @found _ given _ tells h =>
      obtain ⟨shown, hrun, hshown⟩ := mapM_publicDocument h
      have hdocs : (do
          let docs ← liftFault r.documents.items
          docs.mapM fun d => liftFault (publicDocument d) : Exchange _) = pure shown := by
        rw [tells, ← hrun]
        rfl
      refine ⟨rfl, ?_⟩
      rw [hdocs, record_bind, record_bind]
      cases sortKeys sort with
      | error err => exact shows_error held query err
      | ok keys? =>
        cases keys? with
        | none => exact shows_shown hprepared hshown
        | some keys => cases keys <;> exact shows_shown hprepared hshown
  . intro f held held' hstores
    cases hstores with
    | failed => exact hunsent _ _

/-- What becomes of a call at a server that stores what it is sent. -/
structure Treats (c : Call) (held : List Value) (told : List (Command × Reply))
    (out : Except Error Answer)
    (held' : List Value) : Prop where
  /-- No identifier is lost unless the call is to delete documents. -/
  lasts : c.deletes = false → held ⊆ held'
  inserts : ∀ docs, Gives c docs → Inserts c.isUpsert docs held told (out.map Answer.newIds?) held'
  looksUp : ∀ collection id, c = .findById collection id →
    Unserved told ∨ ∃ d, out = .ok (.document d) ∧ IsSeen held (idQuery id) d
  findsOne : ∀ collection query sort d, c = .findOne collection query sort →
    out = .ok (.document d) →
    ∃ prepared, prepareQuery query = .ok prepared ∧ IsSeen held prepared d
  findsAll : ∀ collection query limit skip sort ds, c = .find collection query limit skip sort →
    out = .ok (.documents ds) → ∃ prepared, prepareQuery query = .ok prepared ∧
      ∀ d ∈ ds, IsPublic held prepared d

theorem treats_error {c : Call} {held held' : List Value} {told : List (Command × Reply)}
    {err : Error}
    (hunserved : Unserved told) (hlasts : held ⊆ held')
    : Treats c held told (.error err) held' where
  lasts _ := hlasts
  inserts _ _ := .failed hunserved hlasts
  looksUp _ _ _ := .inl hunserved
  findsOne := nofun
  findsAll := nofun

theorem treats_unsent (c : Call) (err : Error) (held : List Value)
    : Treats c held [] (.error err) held :=
  treats_error (.inl rfl) (List.Subset.refl _)

theorem treats_failure (c : Call) {command : Command} {f : RemoteFault} {held held' : List Value}
    (err : Error)
    (h : Stores held command (.failure f) held')
    : Treats c held [(command, .failure f)] (.error err) held' :=
  treats_error (unserved_failure _ _) (stores_failure h)

theorem Inserts.lasts {mayChange : Bool} {docs : List Fields} {held held' : List Value}
    {told : List (Command × Reply)} {out : Except Error (Option (List Value))}
    (h : Inserts mayChange docs held told out held') : held ⊆ held' := by
  cases h with
  | failed _ lasts => exact lasts
  | changed => exact List.Subset.refl _
  | inserted => exact List.subset_append_left _ _

section

variable {s : State} {c : Call} {db collection : Value} {command : Command}

theorem meets_sent {answer : Result → Answer}
    (h : ∀ r held held', Stores held command (.result r) held' →
      Treats c held [(command, .result r)] (.ok (answer r)) held')
    : Meets s (do return answer (← send db collection command)) (Treats c) := by
  apply meets_bind_send
  . exact fun r t => .refl t
  . exact fun r t => h r
  . exact fun f held held' hstores => treats_failure c _ hstores

theorem meets_seen {query : Fields}
    (hseen : ∀ r held held', Stores held command (.result r) held' →
      held' = held ∧ ∃ d, publicDocument r.document = .ok d ∧ IsSeen held query d)
    (h : ∀ told held d, IsSeen held query d → Treats c held told (.ok (.document d)) held)
    : Meets s (do
        let r ← send db collection command
        return .document (← liftFault (publicDocument r.document))) (Treats c) := by
  apply meets_bind_send
  . exact fun r => tells_of_talks (talks_bind (talks_liftFault _) fun _ => talks_pure _)
  . intro r t held held' hstores
    obtain ⟨rfl, d, hd, hquery⟩ := hseen r held held' hstores
    rw [hd]
    exact h _ held' d hquery
  . exact fun f held held' hstores => treats_failure c _ hstores

end

theorem exists_seen {held : List Value} {query : Fields} {doc : Value}
    (h : IsFrom held query doc ∨ doc = .null ∧ Misses held query)
    : ∃ d, publicDocument doc = .ok d ∧ IsSeen held query d := by
  rcases h with hfrom | ⟨rfl, hmisses⟩
  . obtain ⟨d, hd, hpublic⟩ := hfrom.publicDocument
    exact ⟨d, hd, .inr hpublic⟩
  . exact ⟨.null, rfl, .inl ⟨rfl, hmisses⟩⟩

theorem stores_lookUp {held held' : List Value} {query : Fields} {r : Result}
    (h : Stores held (.lookUp query) (.result r) held')
    : held' = held ∧ ∃ d, publicDocument r.document = .ok d ∧ IsSeen held query d := by
  cases h with
  | lookedUp hfrom => exact ⟨rfl, exists_seen (.inl hfrom)⟩
  | missed tells hmisses => exact ⟨rfl, exists_seen (.inr ⟨tells, hmisses⟩)⟩

theorem stores_findOne {held held' : List Value} {query : Fields} {sort : Option (List SortKey)}
    {r : Result} (h : Stores held (.findOne query sort) (.result r) held')
    : held' = held ∧ ∃ d, publicDocument r.document = .ok d ∧ IsSeen held query d := by
  cases h with
  | foundOne hfrom => exact ⟨rfl, exists_seen (.inl hfrom)⟩
  | foundNone tells hmisses => exact ⟨rfl, exists_seen (.inr ⟨tells, hmisses⟩)⟩

theorem createMany_unsent (now : Moment) (s : State) (collection : Value) {docs : Value}
    (h : ∀ fss : List Fields, docs.items ≠ .ok (fss.map .object))
    : ∃ err, createMany now collection docs s = (.error err, s) := by
  unfold createMany liftFault
  cases hitems : docs.items with
  | error kind => exact ⟨_, rfl⟩
  | ok given =>
    dsimp only
    rw [pure_bind]
    cases given with
    | nil => exact absurd hitems (h [])
    | cons doc given =>
      rcases payloads_cases (doc :: given) now with ⟨fss, hfss, _⟩ | hrun
      . rw [hfss] at hitems
        exact absurd hitems (h fss)
      . dsimp only
        rw [hrun]
        exact ⟨_, rfl⟩

def IsQuiet : Call → Bool
  | .count .. => true
  | .updateOne .. => true
  | .updateMany .. => true
  | .deleteOne .. => true
  | .deleteMany .. => true
  | _ => false

theorem treats_quiet {c : Call} {held held' : List Value} {told : List (Command × Reply)}
    {out : Except Error Answer}
    (hc : IsQuiet c = true) (hlasts : c.deletes = false → held ⊆ held')
    : Treats c held told out held' := by
  cases c with
  | count | updateOne | updateMany | deleteOne | deleteMany =>
    exact ⟨hlasts, nofun, nofun, nofun, nofun⟩
  | _ => cases hc

theorem meets_quiet {s : State} {c : Call} {db collection : Value} {command : Command}
    {answer : Result → Answer} (hc : IsQuiet c = true)
    (h : c.deletes = false → ∀ r held held', Stores held command (.result r) held' → held ⊆ held')
    : Meets s (do return answer (← send db collection command)) (Treats c) :=
  meets_sent fun r held held' hstores => treats_quiet hc fun hdeletes =>
    h hdeletes r held held' hstores

theorem createOne_treats (now : Moment) (s : State) (collection doc : Value)
    : Meets s (run now (.createOne collection doc)) (Treats (.createOne collection doc)) := by
  refine meets_map (fun id => Answer.report (.created id)) ?_
  cases doc with
  | object fs =>
    apply (createOne_meets now s collection fs).imp
    rintro held told r held' ⟨_, hinserts⟩
    refine ⟨fun _ => hinserts.lasts, ?_, nofun, nofun, nofun⟩
    rintro docs ⟨⟩
    cases r <;> exact hinserts
  | _ => exact meets_silent (.refl s) fun held => treats_unsent _ _ held

theorem createMany_treats (now : Moment) (s : State) (collection docs : Value)
    : Meets s (run now (.createMany collection docs)) (Treats (.createMany collection docs)) := by
  refine meets_map (fun ids => Answer.report (.createdMany ids)) ?_
  by_cases hgiven : ∃ fss : List Fields, docs.items = .ok (fss.map .object)
  . obtain ⟨fss, hitems⟩ := hgiven
    apply (createMany_meets now s collection hitems).imp
    intro held told r held' hinserts
    refine ⟨fun _ => hinserts.lasts, ?_, nofun, nofun, nofun⟩
    intro docs hgives
    cases hgives with
    | createMany items =>
      rw [hitems] at items
      rw [← List.map_injective_iff.mpr (fun _ _ h => Value.object.inj h) (Except.ok.inj items)]
      cases r <;> exact hinserts
  . obtain ⟨err, hrun⟩ := createMany_unsent now s collection fun fss hitems => hgiven ⟨fss, hitems⟩
    exact meets_error hrun (.refl s) fun held => treats_unsent _ _ held

theorem upsertOne_treats (now : Moment) (s : State) (collection doc key : Value)
    : Meets s (run now (.upsertOne collection doc key))
      (Treats (.upsertOne collection doc key)) := by
  refine meets_map Answer.report ?_
  cases hfields : Document.fieldsOf doc with
  | ok given =>
    apply (upsertOne_meets now s collection key hfields).imp
    intro held told r held' hinserts
    refine ⟨fun _ => hinserts.lasts, ?_, nofun, nofun, nofun⟩
    intro docs hgives
    cases hgives with
    | upsertOne fields =>
      rw [hfields] at fields
      cases fields
      cases r <;> exact hinserts
  | error kind =>
    exact meets_error (upsertOne_unread hfields) (.refl s) fun held => treats_unsent _ _ held

theorem find_treats (now : Moment) (s : State) (collection query limit skip sort : Value)
    : Meets s (run now (.find collection query limit skip sort))
      (Treats (.find collection query limit skip sort)) := by
  refine meets_map Answer.documents ?_
  apply (find_meets s collection query limit skip sort).imp
  rintro held told r held' ⟨rfl, hshows⟩
  refine ⟨fun _ => List.Subset.refl _, nofun, nofun, nofun, ?_⟩
  rintro _ _ _ _ _ ds ⟨⟩ hds
  obtain ⟨ds', hr, hdocs⟩ := map_ok hds
  cases hdocs
  exact hshows ds hr

theorem findOne_treats (now : Moment) (s : State) (collection query sort : Value)
    : Meets s (run now (.findOne collection query sort))
      (Treats (.findOne collection query sort)) := by
  refine meets_bind_databaseFor (fun db t _ => ?_) (treats_unsent _)
  refine meets_bind_liftFault (fun prepared hprepared => ?_) (treats_unsent _)
  refine meets_bind_lift (fun keys _ => ?_) (treats_unsent _)
  apply meets_seen fun r held held' => stores_findOne
  intro told held d hseen
  refine ⟨fun _ => List.Subset.refl _, nofun, nofun, ?_, nofun⟩
  rintro _ _ _ d' ⟨⟩ ⟨⟩
  exact ⟨prepared, hprepared, hseen⟩

theorem findById_treats (now : Moment) (s : State) (collection id : Value)
    : Meets s (run now (.findById collection id)) (Treats (.findById collection id)) := by
  refine meets_bind_databaseFor (fun db t _ => ?_) (treats_unsent _)
  apply meets_seen fun r held held' => stores_lookUp
  intro told held d hseen
  refine ⟨fun _ => List.Subset.refl _, nofun, ?_, nofun, nofun⟩
  rintro _ _ ⟨⟩
  exact .inr ⟨d, rfl, hseen⟩

theorem count_treats (now : Moment) (s : State) (collection query : Value)
    : Meets s (run now (.count collection query)) (Treats (.count collection query)) := by
  refine meets_bind_databaseFor (fun db t _ => ?_) (treats_unsent _)
  refine meets_bind_liftFault (fun prepared _ => ?_) (treats_unsent _)
  refine meets_quiet rfl fun _ r held held' hstores => ?_
  cases hstores with
  | counted => exact List.Subset.refl _

theorem updateOne_treats (now : Moment) (s : State) (collection doc : Value)
    : Meets s (run now (.updateOne collection doc)) (Treats (.updateOne collection doc)) := by
  refine meets_bind_liftFault (fun fs _ => ?_) (treats_unsent _)
  split
  . exact meets_silent (.refl s) fun held => treats_unsent _ _ held
  . refine meets_bind_databaseFor (fun db t _ => ?_) (treats_unsent _)
    refine meets_quiet rfl fun _ r held held' hstores => ?_
    cases hstores with
    | updated => exact List.Subset.refl _

theorem updateMany_treats (now : Moment) (s : State) (collection query patch : Value)
    : Meets s (run now (.updateMany collection query patch))
      (Treats (.updateMany collection query patch)) := by
  refine meets_bind_databaseFor (fun db t _ => ?_) (treats_unsent _)
  refine meets_bind_liftFault (fun prepared _ => ?_) (treats_unsent _)
  cases patch with
  | object fs =>
    refine meets_quiet rfl fun _ r held held' hstores => ?_
    cases hstores with
    | updatedMany => exact List.Subset.refl _
  | _ => exact meets_silent (.refl t) fun held => treats_unsent _ _ held

theorem deleteOne_treats (now : Moment) (s : State) (collection id : Value)
    : Meets s (run now (.deleteOne collection id)) (Treats (.deleteOne collection id)) :=
  meets_bind_databaseFor (fun _ _ _ => meets_quiet rfl nofun) (treats_unsent _)

theorem deleteMany_treats (now : Moment) (s : State) (collection query : Value)
    : Meets s (run now (.deleteMany collection query)) (Treats (.deleteMany collection query)) := by
  refine meets_bind_databaseFor (fun db t _ => ?_) (treats_unsent _)
  exact meets_bind_liftFault (fun prepared _ => meets_quiet rfl nofun) (treats_unsent _)

theorem run_treats (now : Moment) (c : Call) (s : State) : Meets s (run now c) (Treats c) := by
  cases c with
  | createOne => exact createOne_treats ..
  | createMany => exact createMany_treats ..
  | findOne => exact findOne_treats ..
  | findById => exact findById_treats ..
  | find => exact find_treats ..
  | count => exact count_treats ..
  | updateOne => exact updateOne_treats ..
  | updateMany => exact updateMany_treats ..
  | upsertOne => exact upsertOne_treats ..
  | deleteOne => exact deleteOne_treats ..
  | deleteMany => exact deleteMany_treats ..

/--
Calls that are made one after another, at a server that stores what it is sent for a collection.
-/
inductive Runs (collection : Value)
    : State → List Value → List (Moment × Call) → State → List Value → Prop where
  | nil {s held} : Runs collection s held [] s held
  | here {s held mid now c calls s' held'} (about : c.collection = collection)
      (stores : StoresAll held (toldBetween s (run now c s).2) mid)
      (rest : Runs collection (run now c s).2 mid calls s' held') :
      Runs collection s held ((now, c) :: calls) s' held'
  | elsewhere {s held now c calls s' held'} (other : c.collection ≠ collection)
      (rest : Runs collection (run now c s).2 held calls s' held') :
      Runs collection s held ((now, c) :: calls) s' held'

theorem Runs.lasts {collection : Value} {s s' : State} {held held' : List Value}
    {calls : List (Moment × Call)} (h : Runs collection s held calls s' held')
    (hcalls : ∀ call ∈ calls, call.2.collection = collection → call.2.deletes = false)
    : held ⊆ held' := by
  induction h with
  | nil => exact List.Subset.refl _
  | here about stores _ ih =>
    rw [List.forall_mem_cons] at hcalls
    have htreats := (run_treats _ _ _).toldBetween stores
    exact List.Subset.trans (htreats.lasts (hcalls.1 about)) (ih hcalls.2)
  | elsewhere _ _ ih =>
    rw [List.forall_mem_cons] at hcalls
    exact ih hcalls.2

end Remote

end DocStore
