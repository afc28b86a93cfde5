import DocStore.Proofs.Connector.Report
import DocStore.Proofs.Remote.Course
import DocStore.Proofs.Remote.Stamped
import DocStore.Proofs.Value.Equal

/-!
This module contains the proof that an upsert at a server inserts at most one document, which it
does only after no document was found by its identifier, and that it reports what the server has
told.
-/

namespace DocStore.Remote

open Work

def Server.reply (v : Server) : Reply := v.replies.head?.getD (.result {})

def Server.told (v : Server) : List ClientCall → List (Command × Reply)
  | [] => []
  | .command _ _ c :: calls => (c, v.reply) :: told { v with replies := v.replies.tail } calls
  | _ :: calls => v.told calls

def Reply.outcome : Reply → Except Error Result
  | .result r => .ok r
  | .failure f => .error (.remote f)

def Command.canInsert : Command → Bool
  | .insertOne _ => true
  | .insertMany _ => true
  | .updateOne _ _ upsert => upsert
  | _ => false

def insertion? : Command × Reply → Option Value
  | (.insertOne _, .result r) => r.insertedId
  | (.updateOne _ _ true, .result r) => match r.upsertedId with
    | .null => none
    | id => some id
  | _ => none

theorem canInsert_of_insertion? {t : Command × Reply} {id : Value} (h : insertion? t = some id)
    : t.1.canInsert = true := by
  unfold insertion? at h
  split at h
  . rfl
  . rfl
  . cases h

theorem Server.told_append (v : Server) (calls more : List ClientCall)
    : v.told (calls ++ more) = v.told calls ++ (v.after calls).told more := by
  induction calls generalizing v with
  | nil => rfl
  | cons call calls ih =>
    rw [List.cons_append]
    cases call with
    | command db collection c => exact congrArg _ (ih _)
    | _ => exact ih v

theorem Server.told_eq_nil {v : Server} {calls : List ClientCall}
    (h : ∀ call ∈ calls, call.isCommand = false)
    : v.told calls = [] := by
  induction calls with
  | nil => rfl
  | cons call calls ih =>
    have hcall := h call (List.mem_cons_self ..)
    cases call with
    | command => cases hcall
    | _ => exact ih fun other hother => h other (List.mem_cons_of_mem _ hother)

def State.sent (s : State) (db collection : Value) (c : Command) : State :=
  { s with
    log := s.log ++ [.command db collection c]
    server := { s.server with replies := s.server.replies.tail } }

theorem send_eq (s : State) (db collection : Value) (c : Command)
    : send db collection c s = (s.server.reply.outcome, s.sent db collection c) := by
  unfold Server.reply State.sent
  cases h : s.server.replies with
  | nil =>
    have hreplies : ({ s.server with replies := List.tail [] } : Server) = s.server := by
      rw [List.tail_nil, ← h]
    rw [send_unscripted h, hreplies]
    rfl
  | cons reply replies =>
    cases reply with
    | result r =>
      rw [send_result h]
      rfl
    | failure f =>
      rw [send_failure h]
      rfl

theorem talk_sent (s : State) (db collection : Value) (c : Command)
    : Talk s [.command db collection c] (s.sent db collection c) := ⟨rfl, rfl⟩

def Tells (s : State) (told : List (Command × Reply)) (s' : State) : Prop :=
  ∃ calls, Talk s calls s' ∧ s.server.told calls = told

theorem Tells.refl (s : State) : Tells s [] s := ⟨[], .silent rfl rfl, rfl⟩

theorem Tells.trans {s s' s'' : State} {told more : List (Command × Reply)} (h : Tells s told s')
    (h' : Tells s' more s'') : Tells s (told ++ more) s'' := by
  obtain ⟨calls, htalk, rfl⟩ := h
  obtain ⟨calls', htalk', rfl⟩ := h'
  refine ⟨calls ++ calls', htalk.trans htalk', ?_⟩
  rw [Server.told_append, ← htalk.server]

theorem tells_sent (s : State) (db collection : Value) (c : Command)
    : Tells s [(c, s.server.reply)] (s.sent db collection c) :=
  ⟨_, talk_sent s db collection c, rfl⟩

theorem tells_databaseFor (collection : Value) (s : State)
    : Tells s [] (databaseFor collection s).2 := by
  have htalks : Talks (fun call => call.isCommand = false) (fun _ _ _ => True)
      (databaseFor collection) := by
    exact talks_databaseFor (fun _ h => h) (fun _ _ _ => trivial) collection
  obtain ⟨calls, htalk, hcalls, _⟩ := htalks s
  exact ⟨calls, htalk, Server.told_eq_nil hcalls⟩

structure State.Reaches (s : State) (collection : Value) : Prop where
  client : s.session.client.isSome = true
  database : s.session.database.isSome = true
  named : s.server.collectionFailure collection = none

theorem database_again {s t : State} {db : Value} (h : database .null s = (.ok db, t))
    : t.session.client.isSome = true := by
  cases hs : s.session.client with
  | some n =>
    obtain ⟨calls, huses⟩ := (database_online .null).1 s (by rw [hs]; rfl)
    rw [h] at huses
    rw [huses.client, hs]
    rfl
  | none =>
    rcases (database_online .null).2 s hs with ⟨_, _, _, err, herr⟩ | ⟨u, calls, hconnect, huses⟩
    . rw [h] at herr
      cases herr
    . rw [h] at huses
      rw [huses.client]
      exact connect_ok_client hs hconnect

theorem databaseFor_again {s t : State} {collection db : Value}
    (h : databaseFor collection s = (.ok db, t))
    : t.Reaches collection := by
  unfold databaseFor at h
  obtain ⟨db', u, hdb, h⟩ := of_bind_ok h
  rw [get_bind] at h
  have hclient := database_again hdb
  cases hnone : u.session.database with
  | none =>
    rw [hnone] at h
    cases h
  | some selected =>
    rw [hnone] at h
    change (check (u.server.collectionFailure collection) >>= fun _ => pure db') u =
      (.ok db, t) at h
    cases hname : u.server.collectionFailure collection with
    | some f =>
      rw [hname] at h
      cases h
    | none =>
      rw [hname] at h
      cases h
      exact ⟨hclient, by rw [hnone]; rfl, hname⟩

theorem State.Reaches.databaseFor {s : State} {collection : Value} (h : s.Reaches collection)
    : ∃ db, databaseFor collection s = (.ok db, s) := by
  obtain ⟨db, hdb⟩ := Option.isSome_iff_exists.mp h.database
  refine ⟨db, ?_⟩
  have hchoose : Remote.database .null s = (.ok db, s) := by
    rw [database_some h.client]
    change (Except.ok (s.session.database.getD .null), s) = _
    rw [hdb]
    rfl
  unfold Remote.databaseFor
  rw [bind_ok hchoose, get_bind, hdb]
  change (check (s.server.collectionFailure collection) >>= fun _ => pure db) s = _
  rw [h.named]
  rfl

theorem State.Reaches.sent {s : State} {collection : Value} (h : s.Reaches collection)
    (db other : Value) (c : Command)
    : (s.sent db other c).Reaches collection := ⟨h.client, h.database, h.named⟩

section

variable {now : Moment} {s : State} {collection : Value} {fs : Fields} {key : Value}

def updateById (now : Moment) (fs : Fields) : Command :=
  .updateOne (idQuery (Fields.getD fs Document.idField)) ⟨changedFields fs now, none⟩ false

/--
What was told before a command that can insert: nothing if there is no identifier, and else that
none matched it.
-/
inductive Unmatched (id : Value) : List (Command × Reply) → Prop where
  | absent (h : id = .null) : Unmatched id []
  | none {change result} (present : id ≠ .null) (h : result.matched.isTruthy = false) :
      Unmatched id [(.updateOne (idQuery id) change false, .result result)]

structure Concludes (t : Command × Reply) (r : Except Error Report) : Prop where
  inserts : t.1.canInsert = true
  inserted : ∀ id, insertion? t = some id → r = .ok (.upserted id.normalizeId)
  otherwise : ∀ report, r = .ok report → insertion? t = none →
    ∃ result, t.2 = .result result ∧ report = updated result

inductive Upserts (id : Value) : List (Command × Reply) → Except Error Report → Prop where
  | failed {change f} (present : id ≠ .null) :
      Upserts id [(.updateOne (idQuery id) change false, .failure f)] (.error (.remote f))
  | matched {change result} (present : id ≠ .null) (h : result.matched.isTruthy = true) :
      Upserts id [(.updateOne (idQuery id) change false, .result result)] (.ok (updated result))
  | last {before t r} (passed : Unmatched id before) (h : Concludes t r) :
      Upserts id (before ++ [t]) r

theorem tryCatch_fails {α β : Type} {x : Exchange α} {f : Error → Exchange α} (g : α → Exchange β)
    (hf : ∀ err, ∃ err', f err = throw err') {t : State} {err : Error} (hx : x s = (.error err, t))
    : ∃ err', (tryCatch x f >>= g) s = (.error err', t) := by
  obtain ⟨err', hthrow⟩ := hf err
  refine ⟨err', bind_error ?_⟩
  rw [tryCatch_error hx, hthrow]
  rfl

theorem createOne_concludes (h : s.Reaches collection) (now : Moment) (fs : Fields)
    : ∃ t, Tells s [t] (createOne now collection (.object fs) s).2
        ∧ Concludes t ((createOne now collection (.object fs) s).1.map .upserted) := by
  obtain ⟨db, hdb⟩ := h.databaseFor
  refine ⟨(.insertOne (payload fs now), s.server.reply), ?_⟩
  have hsend : (do send (← databaseFor collection) collection (.insertOne (payload fs now))) s
      = (s.server.reply.outcome, s.sent db collection (.insertOne (payload fs now))) := by
    rw [bind_ok hdb, send_eq]
  have htells := tells_sent s db collection (.insertOne (payload fs now))
  cases hreply : s.server.reply with
  | failure f =>
    rw [hreply] at hsend htells
    obtain ⟨err, hrun⟩ : ∃ err, createOne now collection (.object fs) s
        = (.error err, s.sent db collection (.insertOne (payload fs now))) := by
      refine tryCatch_fails _ (fun err => ?_) hsend
      split
      . exact ⟨_, rfl⟩
      . exact ⟨_, rfl⟩
    rw [hrun]
    exact ⟨htells, rfl, nofun, nofun⟩
  | result r =>
    rw [hreply] at hsend htells
    unfold createOne objectFields
    rw [pure_bind, bind_ok (tryCatch_ok hsend)]
    cases hid : r.insertedId with
    | some id =>
      refine ⟨htells, rfl, ?_, ?_⟩
      . intro new hnew
        unfold insertion? at hnew
        dsimp only at hnew
        rw [hid] at hnew
        cases hnew
        rfl
      . intro report hreport hnone
        unfold insertion? at hnone
        dsimp only at hnone
        rw [hid] at hnone
        cases hnone
    | none =>
      refine ⟨htells, rfl, ?_, nofun⟩
      intro new hnew
      unfold insertion? at hnew
      dsimp only at hnew
      rw [hid] at hnew
      cases hnew

def changeById (now : Moment) (db collection : Value) (fs : Fields) : Exchange (Option Result) :=
  match (Fields.getD fs Document.idField).normalizeId with
  | .null => pure none
  | id => some <$> send db collection (.updateOne (idQuery id) ⟨changedFields fs now, none⟩ false)

def changeByKey (now : Moment) (db collection : Value) (fs : Fields) (key : Value)
    : Exchange Report := do
  let query : Fields := [(key, (Fields.get? fs key).getD .null)]
  let r ← send db collection
    (.updateOne query ⟨changedFields fs now, some (fieldsOnInsert fs now)⟩ true)
  match r.upsertedId with
  | .null => return updated r
  | id => return .upserted id.normalizeId

def changeOrInsert (now : Moment) (db collection : Value) (fs : Fields) (key : Value)
    (byId : Option Result) :
    Exchange Report :=
  match byId.filter (·.matched.isTruthy), key with
  | some r, _ => return updated r
  | none, .null => return .upserted (← createOne now collection (.object fs))
  | none, key => changeByKey now db collection fs key

theorem upsertOne_unread {doc : Value} {kind : Fault}
    (hfields : Document.fieldsOf doc = .error kind)
    : upsertOne now collection doc key s = (.error (.fault kind), s) := by
  unfold upsertOne
  rw [hfields]
  rfl

theorem upsertOne_unkeyed {doc : Value} {given : Fields} {err : Error}
    (hfields : Document.fieldsOf doc = .ok given)
    (hresolve : Document.resolveKey given key = .error err)
    : upsertOne now collection doc key s = (.error err, s) := by
  unfold upsertOne liftFault
  rw [hfields]
  dsimp only
  rw [pure_bind, hresolve, lift_error_bind]

theorem upsertOne_unopened {doc key' : Value} {given : Fields} {t : State} {err : Error}
    (hfields : Document.fieldsOf doc = .ok given)
    (hresolve : Document.resolveKey given key = .ok (key', fs))
    (hdb : databaseFor collection s = (.error err, t))
    : upsertOne now collection doc key s = (.error err, t) := by
  unfold upsertOne liftFault
  rw [hfields]
  dsimp only
  rw [pure_bind, hresolve, lift_ok_bind]
  dsimp only
  rw [bind_error hdb]

theorem upsertOne_opened {doc key' db : Value} {given : Fields} {t : State}
    (hfields : Document.fieldsOf doc = .ok given)
    (hresolve : Document.resolveKey given key = .ok (key', fs))
    (hdb : databaseFor collection s = (.ok db, t))
    : upsertOne now collection doc key s
      = (changeById now db collection fs >>= changeOrInsert now db collection fs key') t := by
  unfold upsertOne liftFault
  rw [hfields]
  dsimp only
  rw [pure_bind, hresolve, lift_ok_bind]
  dsimp only
  rw [bind_ok hdb]
  unfold changeById
  cases hid : (Fields.getD fs Document.idField).normalizeId with
  | null =>
    unfold changeOrInsert changeByKey fieldsOnInsert
    rewrite [hid]
    rfl
  | _ =>
    unfold changeOrInsert changeByKey fieldsOnInsert
    rewrite [hid]
    rfl

theorem changeById_absent (h : Fields.getD fs Document.idField = .null) (now : Moment)
    (db collection : Value) (s : State)
    : changeById now db collection fs s = (.ok none, s) := by
  unfold changeById
  rw [h]
  rfl

theorem idQuery_normalizeId (v : Value) : idQuery v.normalizeId = idQuery v := by
  unfold idQuery
  rw [Value.normalizeId_idem]

theorem changeById_present (h : Fields.getD fs Document.idField ≠ .null) (now : Moment)
    (db collection : Value) (s : State)
    : changeById now db collection fs s
      = (s.server.reply.outcome.map some, s.sent db collection (updateById now fs)) := by
  have hid : (Fields.getD fs Document.idField).normalizeId ≠ .null := fun hnull =>
    h (Value.normalizeId_eq_null.mp hnull)
  have hsend := send_eq s db collection (updateById now fs)
  unfold updateById at hsend ⊢
  rw [← idQuery_normalizeId] at hsend ⊢
  unfold changeById
  generalize (Fields.getD fs Document.idField).normalizeId = id at hid hsend ⊢
  have hmap :
    (some <$> send db collection (.updateOne (idQuery id) ⟨changedFields fs now, none⟩ false) :
    Exchange _) s
      = (s.server.reply.outcome.map some,
          s.sent db collection (.updateOne (idQuery id) ⟨changedFields fs now, none⟩ false)) := by
    change (send _ _ _ >>= fun r => pure (some r)) s = _
    cases hreply : s.server.reply with
    | result r =>
      rw [hreply] at hsend
      rw [bind_ok hsend]
      rfl
    | failure f =>
      rw [hreply] at hsend
      rw [bind_error hsend]
      rfl
  cases id with
  | null => exact absurd rfl hid
  | _ => exact hmap

theorem changeByKey_concludes (s : State) (now : Moment) (db collection : Value) (fs : Fields)
    (key : Value)
    : ∃ t, Tells s [t] (changeByKey now db collection fs key s).2
        ∧ Concludes t (changeByKey now db collection fs key s).1 := by
  unfold changeByKey
  generalize Change.mk _ _ = change
  generalize [(key, (Fields.get? fs key).getD .null)] = query
  refine ⟨(.updateOne query change true, s.server.reply), ?_⟩
  have htells := tells_sent s db collection (.updateOne query change true)
  have hsend := send_eq s db collection (.updateOne query change true)
  cases hreply : s.server.reply with
  | failure f =>
    rw [hreply] at hsend htells
    rw [bind_error hsend]
    exact ⟨htells, rfl, nofun, nofun⟩
  | result r =>
    rw [hreply] at hsend htells
    rw [bind_ok hsend]
    cases hid : r.upsertedId with
    | null =>
      have hinsertion : insertion? (.updateOne query change true, .result r) = none := by
        unfold insertion?
        dsimp only
        rw [hid]
      refine ⟨htells, rfl, ?_, ?_⟩
      . rw [hinsertion]
        exact nofun
      . intro report hreport _
        cases hreport
        exact ⟨r, rfl, rfl⟩
    | _ =>
      have hinsertion : insertion? (.updateOne query change true, .result r) =
          some r.upsertedId := by
        unfold insertion?
        dsimp only
        rw [hid]
      rw [hid] at hinsertion
      refine ⟨htells, rfl, ?_, ?_⟩
      . intro id hsome
        rw [hinsertion] at hsome
        cases hsome
        rfl
      . rw [hinsertion]
        exact nofun

theorem changeOrInsert_concludes {byId : Option Result}
    (hnone : byId.filter (·.matched.isTruthy) = none) (h : s.Reaches collection) (now : Moment)
    (db : Value) (fs : Fields) (key : Value)
    : ∃ t, Tells s [t] (changeOrInsert now db collection fs key byId s).2
        ∧ Concludes t (changeOrInsert now db collection fs key byId s).1 := by
  have hbyKey := changeByKey_concludes s now db collection fs key
  unfold changeOrInsert
  rw [hnone]
  cases key with
  | null =>
    obtain ⟨t, htells, hconcludes⟩ := createOne_concludes h now fs
    refine ⟨t, ?_⟩
    dsimp only
    rcases hcreate : createOne now collection (.object fs) s with ⟨r, u⟩
    rw [hcreate] at htells hconcludes
    cases r with
    | ok id =>
      rw [bind_ok hcreate]
      exact ⟨htells, hconcludes⟩
    | error err =>
      rw [bind_error hcreate]
      exact ⟨htells, hconcludes⟩
  | _ => exact hbyKey

theorem upsertOne_upserts (now : Moment) (collection : Value) {doc key' db : Value} {given : Fields}
    {t : State} (hfields : Document.fieldsOf doc = .ok given)
    (hresolve : Document.resolveKey given key = .ok (key', fs))
    (hdb : databaseFor collection s = (.ok db, t))
    : ∃ told, Tells s told (upsertOne now collection doc key s).2
        ∧ Upserts (Fields.getD given Document.idField) told
          (upsertOne now collection doc key s).1 := by
  have hopen : Tells s [] t := by
    have h := tells_databaseFor collection s
    rwa [hdb] at h
  have hreaches := databaseFor_again hdb
  rw [upsertOne_opened hfields hresolve hdb, ← Document.getD_resolveKey hresolve]
  by_cases hid : Fields.getD fs Document.idField = .null
  . rw [bind_ok (changeById_absent hid now db collection t)]
    obtain ⟨last, htells, hconcludes⟩ :=
      @changeOrInsert_concludes t collection none rfl hreaches now db fs key'
    exact ⟨[last], hopen.trans htells, .last (.absent hid) hconcludes⟩
  . have hbyId := changeById_present hid now db collection t
    have hsent := hopen.trans (tells_sent t db collection (updateById now fs))
    have hreaches' := hreaches.sent db collection (updateById now fs)
    cases hreply : t.server.reply with
    | failure f =>
      rw [hreply] at hbyId hsent
      rw [bind_error hbyId]
      exact ⟨_, hsent, .failed hid⟩
    | result r =>
      rw [hreply] at hbyId hsent
      rw [bind_ok hbyId]
      cases hmatched : r.matched.isTruthy with
      | true =>
        have hfound : (some r).filter (·.matched.isTruthy) = some r := by
          rw [Option.filter_some, if_pos hmatched]
        unfold changeOrInsert
        rw [hfound]
        exact ⟨_, hsent, .matched hid hmatched⟩
      | false =>
        have hnone : (some r).filter (·.matched.isTruthy) = none := by
          rw [Option.filter_some, hmatched]
          rfl
        obtain ⟨last, htells, hconcludes⟩ := changeOrInsert_concludes hnone hreaches' now db fs key'
        exact ⟨_, hsent.trans htells, .last (.none hid hmatched) hconcludes⟩

end

theorem Unmatched.canInsert {id : Value} {before : List (Command × Reply)} (h : Unmatched id before)
    : ∀ t ∈ before, t.1.canInsert = false := by
  intro t ht
  cases h with
  | absent => cases ht
  | none =>
    rw [List.mem_singleton.mp ht]
    rfl

theorem eq_of_canInsert {before before' rest : List (Command × Reply)} {t t' : Command × Reply}
    (h : before ++ [t] = before' ++ t' :: rest) (hbefore : ∀ b ∈ before, b.1.canInsert = false)
    (ht' : t'.1.canInsert = true) : before' = before := by
  rcases List.append_eq_append_iff.mp h with ⟨more, rfl, hlast⟩ | ⟨more, rfl, hlast⟩
  . cases more with
    | nil => exact List.append_nil _
    | cons m more => cases more <;> cases hlast
  . cases more with
    | nil => exact (List.append_nil _).symm
    | cons m more =>
      cases hlast
      rw [hbefore t' (by simp)] at ht'
      cases ht'

structure InsertsOnce (id : Value) (told : List (Command × Reply)) (r : Except Error Report)
    : Prop where
  once : (told.filter (·.1.canInsert)).length ≤ 1
  /-- The first command is the update by the identifier exactly if there is an identifier. -/
  first : ∀ t, told.head? = some t →
    ((∃ change, t.1 = .updateOne (idQuery id) change false) ↔ id ≠ .null)
  /--
  A command that can insert is sent only after that update, and only if the update has matched no
  document.
  -/
  after : ∀ before t rest, told = before ++ t :: rest → t.1.canInsert = true → Unmatched id before
  /-- An insertion that the server has told is reported. -/
  inserted : ∀ t ∈ told, ∀ new, insertion? t = some new →
    ∃ report, r = .ok report ∧ report.TellsInsertion new.normalizeId
  /--
  Without an insertion, the counts of the last command are reported. If this cannot insert, it has
  matched.
  -/
  otherwise : ∀ report, r = .ok report → (∀ t ∈ told, insertion? t = none) →
    ∃ before c result, told = before ++ [(c, .result result)] ∧
      report.TellsUpdate result.matched result.modified
      ∧ (c.canInsert = false → result.matched.isTruthy = true)

theorem insertsOnce_nil (id : Value) (err : Error) : InsertsOnce id [] (.error err) := by
  constructor
  . exact Nat.zero_le _
  . exact nofun
  . intro before t rest h
    rw [eq_comm, List.append_eq_nil_iff] at h
    cases h.2
  . exact nofun
  . exact nofun

theorem insertsOnce_byId {id : Value} {change : Change} {reply : Reply} {r : Except Error Report}
    (present : id ≠ .null)
    (h : ∀ report, r = .ok report → ∃ result, reply = .result result ∧ report = updated result
      ∧ result.matched.isTruthy = true)
    : InsertsOnce id [(.updateOne (idQuery id) change false, reply)] r := by
  constructor
  . exact Nat.zero_le _
  . intro t ht
    cases ht
    exact iff_of_true ⟨change, rfl⟩ present
  . intro before t rest heq hinsert
    have ht : t ∈ [(Command.updateOne (idQuery id) change false, reply)] := by simp [heq]
    rw [List.mem_singleton.mp ht] at hinsert
    cases hinsert
  . intro t ht new hnew
    rw [List.mem_singleton.mp ht] at hnew
    cases hnew
  . intro report hreport _
    obtain ⟨result, rfl, rfl, hmatched⟩ := h report hreport
    exact ⟨[], _, result, rfl, Report.updated_tells _ _, fun _ => hmatched⟩

theorem Upserts.insertsOnce {id : Value} {told : List (Command × Reply)} {r : Except Error Report}
    (h : Upserts id told r) : InsertsOnce id told r := by
  cases h with
  | failed present => exact insertsOnce_byId present nofun
  | @matched _ result present hmatched =>
    refine insertsOnce_byId present ?_
    intro report hreport
    cases hreport
    exact ⟨result, rfl, rfl, hmatched⟩
  -- all commands before the last one change documents by their identifier, and insert none
  | @last before t _ passed hlast =>
    have hbefore : ∀ b ∈ before, b.1.canInsert = false := passed.canInsert
    constructor
    . rw [List.filter_append, List.filter_eq_nil_iff.mpr fun b hb => by
        rw [hbefore b hb]; exact Bool.false_ne_true]
      exact List.length_filter_le ..
    . cases passed with
      | absent habsent =>
        intro t' ht'
        cases ht'
        refine iff_of_false ?_ (not_not.mpr habsent)
        rintro ⟨change, ht⟩
        have hinserts := hlast.inserts
        rw [ht] at hinserts
        cases hinserts
      | @none change _ present =>
        intro t' ht'
        cases ht'
        exact iff_of_true ⟨change, rfl⟩ present
    . intro before' t' rest heq hinsert
      rw [eq_of_canInsert heq hbefore hinsert]
      exact passed
    . intro t' ht' new hnew
      rw [List.mem_append, List.mem_singleton] at ht'
      cases ht' with
      | inl ht' =>
        have hinsert := canInsert_of_insertion? hnew
        rw [hbefore t' ht'] at hinsert
        cases hinsert
      | inr ht' =>
        rw [ht'] at hnew
        exact ⟨_, hlast.inserted new hnew, Report.upserted_tells _⟩
    . intro report hreport hnone
      obtain ⟨result, hresult, rfl⟩ := hlast.otherwise report hreport (hnone t (by simp))
      obtain ⟨c, reply⟩ := t
      dsimp only at hresult
      subst hresult
      refine ⟨before, c, result, rfl, Report.updated_tells _ _, ?_⟩
      intro hinsert
      rw [show c.canInsert = true from hlast.inserts] at hinsert
      cases hinsert

def toldBetween (s s' : State) : List (Command × Reply) := s.server.told (s'.log.drop s.log.length)

theorem Tells.toldBetween {s s' : State} {told : List (Command × Reply)} (h : Tells s told s')
    : toldBetween s s' = told := by
  obtain ⟨calls, htalk, rfl⟩ := h
  unfold Remote.toldBetween
  rw [htalk.drop]

theorem Upserts.ne_nil {id : Value} {told : List (Command × Reply)} {r : Except Error Report}
    (h : Upserts id told r)
    : told ≠ [] := by
  cases h with
  | failed => exact List.cons_ne_nil _ _
  | matched => exact List.cons_ne_nil _ _
  | last => simp

inductive IsUnsent (s : State) (collection doc key : Value) : Error → Prop where
  | fields {kind} (h : Document.fieldsOf doc = .error kind) :
      IsUnsent s collection doc key (.fault kind)
  | key {given err} (fields : Document.fieldsOf doc = .ok given)
      (h : Document.resolveKey given key = .error err) : IsUnsent s collection doc key err
  | database {err} (h : (databaseFor collection s).1 = .error err) :
      IsUnsent s collection doc key err

structure UpsertsOnce (s : State) (collection doc key : Value) (r : Except Error Report)
    (s' : State) : Prop where
  insertsOnce : ∀ given, Document.fieldsOf doc = .ok given →
    InsertsOnce (Fields.getD given Document.idField) (toldBetween s s') r
  sends : toldBetween s s' = [] → ∃ err, r = .error err ∧ IsUnsent s collection doc key err
  /-- A key that names no field with a value is refused before anything is sent. -/
  refuses : ∀ given, Document.fieldsOf doc = .ok given → key ≠ .null → key.isHashable = true →
    (Fields.get? given key).getD .null = .null → r = .error (.argument (.noKeyField key)) ∧ s' = s

theorem resolveKey_refused {given : Fields} {key : Value} (hkey : key ≠ .null)
    (hhash : key.isHashable = true) (habsent : (Fields.get? given key).getD .null = .null)
    : Document.resolveKey given key = .error (.argument (.noKeyField key)) := by
  unfold Document.resolveKey
  split
  . exact absurd rfl hkey
  . rw [hhash, habsent]
    rfl

theorem upsertOne_untold {now : Moment} {s s' : State} {collection doc key : Value} {err : Error}
    (hrun : upsertOne now collection doc key s = (.error err, s')) (htells : Tells s [] s')
    (hunsent : IsUnsent s collection doc key err)
    (hrefused : ∀ given, Document.fieldsOf doc = .ok given →
      Document.resolveKey given key = .error (.argument (.noKeyField key)) →
        err = .argument (.noKeyField key) ∧ s' = s)
    : UpsertsOnce s collection doc key (upsertOne now collection doc key s).1
        (upsertOne now collection doc key s).2 := by
  rw [hrun]
  constructor
  . intro given _
    rw [htells.toldBetween]
    exact insertsOnce_nil _ err
  . intro _
    exact ⟨err, rfl, hunsent⟩
  . intro given hfields hkey hhash habsent
    obtain ⟨rfl, rfl⟩ := hrefused given hfields (resolveKey_refused hkey hhash habsent)
    exact ⟨rfl, rfl⟩

/--
Whatever a server replies, an upsert sends at most one command that can insert a document, and only
after none was found by the identifier that the document may have. It reports an insertion if, and
only if, the server has told one.
-/
theorem upsert_inserts_once (now : Moment) (s : State) (collection doc key : Value)
    : UpsertsOnce s collection doc key (upsertOne now collection doc key s).1
        (upsertOne now collection doc key s).2 := by
  cases hfields : Document.fieldsOf doc with
  | error kind =>
    refine upsertOne_untold (upsertOne_unread hfields) (.refl s) (.fields hfields) ?_
    intro given hgiven
    rw [hfields] at hgiven
    cases hgiven
  | ok given =>
    cases hresolve : Document.resolveKey given key with
    | error err =>
      refine upsertOne_untold (upsertOne_unkeyed hfields hresolve) (.refl s)
        (.key hfields hresolve) ?_
      intro given' hgiven hrefused
      rw [hfields] at hgiven
      cases hgiven
      rw [hresolve] at hrefused
      cases hrefused
      exact ⟨rfl, rfl⟩
    | ok resolved =>
      obtain ⟨key', fs⟩ := resolved
      rcases hdb : databaseFor collection s with ⟨r, t⟩
      cases r with
      | error err =>
        have htells := tells_databaseFor collection s
        rw [hdb] at htells
        refine upsertOne_untold (upsertOne_unopened hfields hresolve hdb) htells
          (.database (by rw [hdb])) ?_
        intro given' hgiven hrefused
        rw [hfields] at hgiven
        cases hgiven
        rw [hresolve] at hrefused
        cases hrefused
      | ok db =>
        obtain ⟨told, htells, hupserts⟩ := upsertOne_upserts now collection hfields hresolve hdb
        constructor
        . intro given' hgiven
          rw [hfields] at hgiven
          cases hgiven
          rw [htells.toldBetween]
          exact hupserts.insertsOnce
        . intro hnil
          rw [htells.toldBetween] at hnil
          exact absurd hnil hupserts.ne_nil
        . intro given' hgiven hkey hhash habsent
          rw [hfields] at hgiven
          cases hgiven
          rw [resolveKey_refused hkey hhash habsent] at hresolve
          cases hresolve

def keyedFields : Fields := [(.text "_id", .text "1"), (.text "email", .text "a")]

def insertingReplies : List Reply :=
  [.result {}, .result { upsertedId := .id ({} : IdSupply).upcoming }]

theorem upsert_inserts_once_keyed
    : ∃ report, (upsertOne (.utc 0) (.text "c") (.object keyedFields) (.text "email")
      (connectorTo insertingReplies)).1
        = .ok report ∧ report.TellsInsertion (.text "65a000000000000000000001") := by
  have hupserts :=
    upsert_inserts_once (.utc 0) (connectorTo insertingReplies) (.text "c") (.object keyedFields)
    (.text "email")
  have htold : toldBetween (connectorTo insertingReplies)
      (upsertOne (.utc 0) (.text "c") (.object keyedFields) (.text "email")
        (connectorTo insertingReplies)).2
        = [(updateById (.utc 0) keyedFields, .result {}),
          (.updateOne [(.text "email", .text "a")]
            ⟨changedFields keyedFields (.utc 0), some (fieldsOnInsert keyedFields (.utc 0))⟩ true,
            .result { upsertedId := .id ({} : IdSupply).upcoming })] := by
    with_unfolding_all rfl
  have honce := hupserts.insertsOnce keyedFields rfl
  rw [htold] at honce
  exact honce.inserted _ (List.mem_cons_of_mem _ (List.mem_singleton_self _))
    (.id ({} : IdSupply).upcoming) rfl

end DocStore.Remote
