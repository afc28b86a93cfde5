import DocStore.Proofs.Remote.Command

/-!
This module contains the proof of what a caller is told when the server reports that an identifier
is taken.
-/

namespace DocStore.Remote

inductive ReportsTaken : RemoteFault → Prop where
  | single {text} : ReportsTaken (.duplicateKey text)
  | bulk {details error} {errors : List Fields}
      (items : Fields.get? details (.text "writeErrors") = some (.list (errors.map .object)))
      (documents : ∀ fs ∈ errors, ∃ op, (Fields.get? fs (.text "op")).getD (.object []) =
        .object op)
      (mem : error ∈ errors) (code : hasDuplicateCode error = true) :
      ReportsTaken (.bulkWrite (.object details))

def Command.translates : Command → RemoteFault → Bool
  | .insertOne _, .duplicateKey _ => true
  | .insertMany _, .bulkWrite _ => true
  | _, _ => false

theorem firstTaken_of_mem {errors : List Fields} {error : Fields} (mem : error ∈ errors)
    (code : hasDuplicateCode error = true)
    : ∃ first ∈ errors, FirstTaken (errors.map .object) first := by
  induction errors with
  | nil => cases mem
  | cons fs errors ih =>
    cases hfs : hasDuplicateCode fs with
    | true => exact ⟨fs, List.mem_cons_self .., .here hfs⟩
    | false =>
      cases mem with
      | head => rw [hfs] at code; cases code
      | tail _ mem =>
        obtain ⟨first, hmem, hfirst⟩ := ih mem
        exact ⟨first, List.mem_cons_of_mem _ hmem, .later hfs hfirst⟩

theorem ReportsTaken.tells {details : Value} (h : ReportsTaken (.bulkWrite details))
    : ∃ id, TellsDuplicate details id := by
  cases h with
  | bulk items documents mem code =>
    obtain ⟨first, hmem, hfirst⟩ := firstTaken_of_mem mem code
    obtain ⟨op, hop⟩ := documents first hmem
    refine ⟨_, .intro ?_ hfirst hop⟩
    rw [items]
    rfl

theorem Surfaces.ofReport {collection : Value} {command : Command} {f : RemoteFault} {err : Error}
    (h : Surfaces collection command f err) (hreport : ReportsTaken f)
    : if command.translates f then ∃ id, err = .duplicateKey collection id
      else err = .remote f := by
  cases h with
  | taken => exact ⟨_, rfl⟩
  | takenOfMany => exact ⟨_, rfl⟩
  | noneTaken none =>
    obtain ⟨id, hid⟩ := hreport.tells
    exact absurd hid (none id)
  | insertOther h =>
    cases f with
    | duplicateKey text => exact absurd rfl (h text)
    | _ => rfl
  | insertManyOther h =>
    cases f with
    | bulkWrite details => exact absurd rfl (h details)
    | _ => rfl
  | updateOne => rfl
  | updateMany => rfl
  | @other command _ h =>
    cases command with
    | insertOne => cases h
    | insertMany => cases h
    | _ => rfl

/--
When a command of a call fails, the call fails, with an error that tells the fault. A report that an
identifier is taken is told as such if it comes from an insertion; that of an update reaches the
caller as it is.
-/
theorem run_tells_taken (now : Moment) (c : Call) (s : State) {db collection : Value}
    {command : Command}
    {f : RemoteFault}
    (h : (ClientCall.command db collection command, f) ∈
      s.server.raised ((run now c s).2.log.drop s.log.length))
    : collection = c.collection ∧ Sends now c command ∧ ∃ err, (run now c s).1 = .error err
      ∧ Surfaces collection command f err ∧ (ReportsTaken f →
        if command.translates f then ∃ id, err = .duplicateKey collection id
          else err = .remote f) := by
  obtain ⟨calls, htalk, hcalls, hraises⟩ := run_serves now c s
  rw [htalk.drop] at h
  obtain ⟨hcollection, hsends⟩ := hcalls _ (Server.mem_of_raised h)
  obtain ⟨err, he, hsurfaces⟩ := hraises _ f h
  rw [← hcollection] at hsurfaces
  exact ⟨hcollection, hsends, err, he, hsurfaces, hsurfaces.ofReport⟩

def failedCalls (c : Call) (replies : List Reply) : List (ClientCall × RemoteFault) :=
  (connectorTo replies).server.raised
    ((run (.utc 0) c (connectorTo replies)).2.log.drop (connectorTo replies).log.length)

def refusedUpsert : Call := .upsertOne (.text "c") (.object [(.text "_id", .text "1")]) .null

def upsertReplies : List Reply := [.result {}, .failure (.duplicateKey "E11000")]

theorem run_tells_taken_upsert
    : (ClientCall.command (.text "app") (.text "c")
      (.insertOne (payload [(.text "_id", .text "1")] (.utc 0))),
          RemoteFault.duplicateKey "E11000") ∈ failedCalls refusedUpsert upsertReplies
        ∧ ∃ id, (run (.utc 0) refusedUpsert (connectorTo upsertReplies)).1 =
          .error (.duplicateKey (.text "c") id) := by
  have hcalls : failedCalls refusedUpsert upsertReplies
      = [(.command (.text "app") (.text "c")
        (.insertOne (payload [(.text "_id", .text "1")] (.utc 0))),
          .duplicateKey "E11000")] := by with_unfolding_all rfl
  have hfailed := List.mem_singleton_self
    (ClientCall.command (.text "app") (.text "c")
      (.insertOne (payload [(.text "_id", .text "1")] (.utc 0))),
      RemoteFault.duplicateKey "E11000")
  rw [← hcalls] at hfailed
  obtain ⟨_, _, err, he, _, htold⟩ :=
    run_tells_taken (.utc 0) refusedUpsert (connectorTo upsertReplies) hfailed
  obtain ⟨id, rfl⟩ := htold .single
  exact ⟨hfailed, id, he⟩

def refusedUpdate : Call :=
  .updateOne (.text "c") (.object [(.text "_id", .text "1"), (.text "a", .int 2)])

theorem update_passes_taken
    : ¬ ∀ (now : Moment) (c : Call) (s : State) (db collection : Value) (command : Command)
      (f : RemoteFault),
      (ClientCall.command db collection command, f) ∈
        s.server.raised ((run now c s).2.log.drop s.log.length) →
        ReportsTaken f → ∃ id, (run now c s).1 = .error (.duplicateKey c.collection id) := by
  intro h
  have hcalls : failedCalls refusedUpdate [.failure (.duplicateKey "E11000")]
      = [(.command (.text "app") (.text "c") (.updateOne (idQuery (.text "1"))
          ⟨changedFields [(.text "a", .int 2)] (.utc 0), none⟩ false),
              .duplicateKey "E11000")] := by with_unfolding_all rfl
  have hrun : (run (.utc 0) refusedUpdate (connectorTo [.failure (.duplicateKey "E11000")])).1
      = .error (.remote (.duplicateKey "E11000")) := by with_unfolding_all rfl
  have hfailed := List.mem_singleton_self
    (ClientCall.command (.text "app") (.text "c") (.updateOne (idQuery (.text "1"))
      ⟨changedFields [(.text "a", .int 2)] (.utc 0), none⟩ false),
        RemoteFault.duplicateKey "E11000")
  rw [← hcalls] at hfailed
  obtain ⟨id, hid⟩ := h _ _ _ _ _ _ _ hfailed .single
  rw [hrun] at hid
  cases hid

end DocStore.Remote
