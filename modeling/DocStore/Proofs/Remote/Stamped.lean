import Mathlib.Data.List.Forall2
import DocStore.Proofs.Remote.Command

/-!
This module contains the proof that the fields of the store are the connector's in all that it
sends: however its calls follow one another, the server is sent new documents with the times and the
identifier that they are to have, and changes that leave the time of creation and the identifier
alone.
-/

namespace DocStore

namespace Fields

def under (fs : Fields) (name : String) : Fields := fs.filter fun f => f.1.equals (.text name)

theorem under_append (fs gs : Fields) (name : String)
    : (fs ++ gs).under name = fs.under name ++ gs.under name :=
  List.filter_append ..

theorem under_self (name : String) (v : Value)
    : under [(.text name, v)] name = [(.text name, v)] := by
  unfold under
  rw [List.filter_singleton, Value.equals_text.mpr rfl]
  rfl

theorem under_eq_nil {fs : Fields} {name : String}
    : fs.under name = [] ↔ ∀ f ∈ fs, f.1 ≠ .text name := by
  unfold under
  rw [List.filter_eq_nil_iff]
  exact forall₂_congr fun f _ => not_congr Value.equals_text

theorem under_ne {name other : String} (h : other ≠ name) (v : Value)
    : under [(.text other, v)] name = [] := by
  rw [under_eq_nil]
  intro f hf he
  rw [List.mem_singleton.mp hf] at he
  cases he
  exact h rfl

end Fields

namespace Document

theorem under_stripStoreFields (fs : Fields) {name : String} (h : name ∈ storeFields)
    : Fields.under (stripStoreFields fs) name = [] := by
  rw [Fields.under_eq_nil]
  intro f hf
  exact (mem_stripStoreFields hf).2 name h

theorem resolveKey_cases {fs gs : Fields} {key key' : Value}
    (h : resolveKey fs key = .ok (key', gs))
    : gs = fs ∨ gs = Fields.erase fs (.text designatorField) := by
  unfold resolveKey at h
  split at h
  . split at h
    . split at h
      . cases h
        exact .inl rfl
      . split at h
        . cases h
          exact .inl rfl
        . cases h
          exact .inr rfl
    . cases h
      exact .inl rfl
  . split at h
    . cases h
    . split at h
      . cases h
      . cases h
        exact .inl rfl

theorem getD_resolveKey {fs gs : Fields} {key key' : Value} (h : resolveKey fs key = .ok (key', gs))
    : Fields.getD gs idField = Fields.getD fs idField := by
  rcases resolveKey_cases h with rfl | rfl
  . rfl
  . exact Fields.getD_erase_ne fs (by decide)

end Document

namespace Remote

def sentId : Value → Fields
  | .null => []
  | id => [(.text Document.idField, id.normalizeId.toObjectId)]

theorem under_sentId (id : Value) : Fields.under (sentId id) Document.idField = sentId id := by
  unfold sentId
  split
  . rfl
  . exact Fields.under_self _ _

theorem under_sentId_ne (id : Value) {name : String} (h : Document.idField ≠ name)
    : Fields.under (sentId id) name = [] := by
  unfold sentId
  split
  . rfl
  . exact Fields.under_ne h _

structure IsNew (now : Moment) (doc payload : Fields) : Prop where
  created : payload.under Document.createdAt = [(.text Document.createdAt, .date now)]
  updated : payload.under Document.updatedAt = [(.text Document.updatedAt, .date now)]
  id : payload.under Document.idField = sentId (Fields.getD doc Document.idField)

/--
A change that sets the time of the update, and the time of creation and the identifier at most on
insertion.
-/
structure IsChange (now : Moment) (change : Change) : Prop where
  updated : change.set.under Document.updatedAt = [(.text Document.updatedAt, .date now)]
  created : change.set.under Document.createdAt = []
  id : change.set.under Document.idField = []
  onInsert : ∀ fs, change.setOnInsert = some fs →
    fs.under Document.createdAt = [(.text Document.createdAt, .date now)]
  disjoint : ∀ fs, change.setOnInsert = some fs → ∀ f ∈ fs, ∀ g ∈ change.set, g.1.equals f.1 = false

inductive Gives : Call → List Fields → Prop where
  | createOne {collection fs} : Gives (.createOne collection (.object fs)) [fs]
  | createMany {collection docs fss} (items : docs.items = .ok (fss.map .object)) :
      Gives (.createMany collection docs) fss
  | upsertOne {collection doc key fs} (fields : Document.fieldsOf doc = .ok fs) :
      Gives (.upsertOne collection doc key) [fs]

def Command.payloads : Command → List Fields
  | .insertOne payload => [payload]
  | .insertMany payloads => payloads
  | _ => []

def Command.change? : Command → Option Change
  | .updateOne _ change _ => some change
  | .updateMany _ change => some change
  | _ => none

structure IsStamped (now : Moment) (c : Call) (command : Command) : Prop where
  inserts : command.payloads = [] ∨ ∃ docs, Gives c docs ∧
    List.Forall₂ (IsNew now) docs command.payloads
  changes : ∀ change, command.change? = some change → IsChange now change

theorem payload_eq (doc : Fields) (now : Moment)
    : payload doc now = Document.stripStoreFields doc ++ ([(.text Document.createdAt, .date now)]
      ++ [(.text Document.updatedAt, .date now)]) ++ sentId (Fields.getD doc Document.idField) :=
  rfl

theorem payload_isNew (doc : Fields) (now : Moment) : IsNew now doc (payload doc now) := by
  rw [payload_eq]
  constructor
  . rw [Fields.under_append, Fields.under_append, Fields.under_append,
      Document.under_stripStoreFields doc (by decide), Fields.under_self,
        Fields.under_ne (by decide),
      under_sentId_ne _ (by decide)]
    rfl
  . rw [Fields.under_append, Fields.under_append, Fields.under_append,
      Document.under_stripStoreFields doc (by decide), Fields.under_self,
        Fields.under_ne (by decide),
      under_sentId_ne _ (by decide)]
    rfl
  . rw [Fields.under_append, Fields.under_append, Fields.under_append,
      Document.under_stripStoreFields doc (by decide), Fields.under_ne (by decide),
        Fields.under_ne (by decide),
      under_sentId]
    rfl

theorem IsNew.congr {now : Moment} {doc doc' payload : Fields} (h : IsNew now doc payload)
    (hid : Fields.getD doc Document.idField = Fields.getD doc' Document.idField)
    : IsNew now doc' payload :=
  ⟨h.created, h.updated, by rw [← hid]; exact h.id⟩

theorem fieldsOnInsert_eq (fs : Fields) (now : Moment)
    : fieldsOnInsert fs now = [(.text Document.createdAt, .date now)]
      ++ sentId (Fields.getD fs Document.idField).normalizeId := rfl

theorem mem_fieldsOnInsert {fs : Fields} {now : Moment} {f : Value × Value}
    (h : f ∈ fieldsOnInsert fs now)
    : f.1 = .text Document.createdAt ∨ f.1 = .text Document.idField := by
  rw [fieldsOnInsert_eq, List.mem_append, List.mem_singleton] at h
  cases h with
  | inl h =>
    rw [h]
    exact .inl rfl
  | inr h =>
    unfold sentId at h
    split at h
    . cases h
    . rw [List.mem_singleton.mp h]
      exact .inr rfl

theorem changedFields_under (patch : Fields) (now : Moment) {name : String}
    (h : name ∈ Document.storeFields)
    : (changedFields patch now).under name =
      Fields.under [(.text Document.updatedAt, .date now)] name := by
  unfold changedFields
  rw [Fields.under_append, Document.under_stripStoreFields patch h, List.nil_append]

theorem changedFields_isChange (patch : Fields) (now : Moment)
    : IsChange now ⟨changedFields patch now, none⟩ := by
  constructor
  . rw [changedFields_under patch now (by decide), Fields.under_self]
  . rw [changedFields_under patch now (by decide), Fields.under_ne (by decide)]
  . rw [changedFields_under patch now (by decide), Fields.under_ne (by decide)]
  . exact nofun
  . exact nofun

theorem upsert_isChange (fs : Fields) (now : Moment)
    : IsChange now ⟨changedFields fs now, some (fieldsOnInsert fs now)⟩ := by
  have hchange := changedFields_isChange fs now
  refine ⟨hchange.updated, hchange.created, hchange.id, ?_, ?_⟩
  . intro gs hgs
    cases hgs
    rw [fieldsOnInsert_eq, Fields.under_append, Fields.under_self,
      under_sentId_ne _ (by decide), List.append_nil]
  . intro gs hgs f hf g hg
    cases hgs
    rw [Bool.eq_false_iff]
    intro he
    rcases mem_fieldsOnInsert hf with hcreated | hid
    . rw [hcreated, Value.equals_text] at he
      exact Fields.under_eq_nil.mp hchange.created g hg he
    . rw [hid, Value.equals_text] at he
      exact Fields.under_eq_nil.mp hchange.id g hg he

theorem Sends.isStamped {now : Moment} {c : Call} {command : Command} (h : Sends now c command)
    : IsStamped now c command := by
  cases h with
  | @createOne collection fs =>
    exact ⟨.inr ⟨[fs], .createOne, .cons (payload_isNew fs now) .nil⟩, nofun⟩
  | @createMany collection docs fss items some =>
    refine ⟨.inr ⟨fss, .createMany items, ?_⟩, nofun⟩
    rw [Command.payloads, List.forall₂_map_right_iff, List.forall₂_same]
    exact fun fs _ => payload_isNew fs now
  | updateOne =>
    refine ⟨.inl rfl, ?_⟩
    rintro _ ⟨⟩
    exact changedFields_isChange _ now
  | updateMany =>
    refine ⟨.inl rfl, ?_⟩
    rintro _ ⟨⟩
    exact changedFields_isChange _ now
  | upsertById =>
    refine ⟨.inl rfl, ?_⟩
    rintro _ ⟨⟩
    exact changedFields_isChange _ now
  | upsertByKey =>
    refine ⟨.inl rfl, ?_⟩
    rintro _ ⟨⟩
    exact upsert_isChange _ now
  | @upsertNew collection doc key given key' fs fields resolve =>
    refine ⟨.inr ⟨[given], .upsertOne fields, .cons ?_ .nil⟩, nofun⟩
    exact (payload_isNew fs now).congr (Document.getD_resolveKey resolve)
  | other h =>
    cases command with
    | insertOne => cases h
    | insertMany => cases h
    | updateOne => cases h
    | updateMany => cases h
    | _ => exact ⟨.inl rfl, nofun⟩

/-- What a connector is told, and what becomes of its server meanwhile. -/
inductive Event where
  | call (now : Moment) (c : Call)
  | reconnect (url databaseName options : Value)
  | select (name : Value)
  | close
  | serve (server : Server)

namespace Event

def after (s : State) : Event → State
  | .call now c => (run now c s).2
  | .reconnect url databaseName options => (Remote.reconnect url databaseName options s).2
  | .select name => (database name s).2
  | .close => (Remote.close s).2
  | .serve server => { s with server }

def calls (s : State) (e : Event) : List ClientCall := (e.after s).log.drop s.log.length

def history (s : State) : List Event → List (Event × ClientCall)
  | [] => []
  | e :: es => (e.calls s).map (e, ·) ++ history (e.after s) es

def Stamps (e : Event) (call : ClientCall) : Prop :=
  ∀ db collection command, call = .command db collection command →
    ∃ now c, e = .call now c ∧ collection = c.collection ∧ IsStamped now c command

theorem stamps_of_talks {α : Type} {x : Exchange α} {P : ClientCall → Prop}
    {T : ClientCall → RemoteFault → Error → Prop} (hx : Talks P T x) (s : State) {e : Event}
    (hP : ∀ call, P call → e.Stamps call)
    : ∃ calls, (x s).2.log = s.log ++ calls ∧ ∀ call ∈ calls, e.Stamps call := by
  obtain ⟨calls, htalk, hcalls, _⟩ := hx s
  exact ⟨calls, htalk.log, fun call hcall => hP call (hcalls call hcall)⟩

theorem after_stamped (s : State) (e : Event)
    : ∃ calls, (e.after s).log = s.log ++ calls ∧ ∀ call ∈ calls, e.Stamps call := by
  have hsilent : ∀ call : ClientCall, call.isCommand = false → e.Stamps call := by
    rintro call hcall db collection command rfl
    cases hcall
  cases e with
  | call now c =>
    refine stamps_of_talks (run_serves now c) s ?_
    rintro call hcall db collection command rfl
    exact ⟨now, c, rfl, hcall.1, hcall.2.isStamped⟩
  | reconnect url databaseName options =>
    have hreconnect : Talks (·.isCommand = false) (fun _ _ _ => True)
        (Remote.reconnect url databaseName options) := by
      apply talks_reconnect
      . exact fun _ h => h
      . exact fun _ _ _ => trivial
    exact stamps_of_talks hreconnect s hsilent
  | select name =>
    have hselect : Talks (·.isCommand = false) (fun _ _ _ => True) (database name) := by
      apply talks_database
      . exact fun _ h => h
      . exact fun _ _ _ => trivial
    exact stamps_of_talks hselect s hsilent
  | close =>
    have hclose : Talks (·.isCommand = false) (fun _ _ _ => True) Remote.close :=
      talks_close fun _ h => h
    exact stamps_of_talks hclose s hsilent
  | serve server => exact ⟨[], (List.append_nil _).symm, nofun⟩

theorem after_log (s : State) (e : Event) : (e.after s).log = s.log ++ e.calls s := by
  obtain ⟨calls, hlog, _⟩ := after_stamped s e
  unfold Event.calls
  rw [hlog, List.drop_left]

theorem calls_stamped (s : State) (e : Event) : ∀ call ∈ e.calls s, e.Stamps call := by
  obtain ⟨calls, hlog, hcalls⟩ := after_stamped s e
  unfold Event.calls
  rw [hlog, List.drop_left]
  exact hcalls

end Event

/--
However calls and other events follow one another, and whatever the server replies, all that is sent
is in the history of the events, and each of its commands is that of a call, and is stamped.
-/
theorem history_stamped (s : State) (es : List Event)
    : (es.foldl Event.after s).log = s.log ++ (Event.history s es).map (·.2)
      ∧ ∀ e db collection command, (e, ClientCall.command db collection command) ∈
        Event.history s es →
        ∃ now c, e = .call now c ∧ collection = c.collection ∧ IsStamped now c command := by
  induction es generalizing s with
  | nil => exact ⟨(List.append_nil _).symm, nofun⟩
  | cons e es ih =>
    obtain ⟨hlog, hstamped⟩ := ih (e.after s)
    constructor
    . rw [List.foldl_cons, hlog, e.after_log, Event.history, List.map_append, List.map_map,
        List.append_assoc]
      congr 2
      exact (List.map_id _).symm
    . intro e' db collection command h
      rw [Event.history, List.mem_append, List.mem_map] at h
      cases h with
      | inl h =>
        obtain ⟨call, hcall, he⟩ := h
        cases he
        exact e.calls_stamped s _ hcall db collection command rfl
      | inr h => exact hstamped e' db collection command h

def forgedUpsert : Call :=
  .upsertOne (.text "c")
    (.object [(.text "createdAt", .int 5), (.text "_id", .text "1"), (.text "a", .int 2)])
    (.text "a")

def upsertElsewhere : List Event := [.select (.text "other"), .call (.utc 0) forgedUpsert, .close]

def keyedCommand : Command :=
  .updateOne [(.text "a", .int 2)] ⟨[(.text "a", .int 2), (.text "updatedAt", .date (.utc 0))],
    some [(.text "createdAt", .date (.utc 0)), (.text "_id", .text "1")]⟩ true

theorem history_stamped_upsert
    : (Event.call (.utc 0) forgedUpsert,
      ClientCall.command (.text "other") (.text "c") keyedCommand)
          ∈ Event.history (connectorTo []) upsertElsewhere
        ∧ ∃ now c, Event.call (.utc 0) forgedUpsert = .call now c ∧ Value.text "c" = c.collection
          ∧ IsStamped now c keyedCommand := by
  have hkeyed : (Event.history (connectorTo []) upsertElsewhere)[5]?
      = some (.call (.utc 0) forgedUpsert, .command (.text "other") (.text "c") keyedCommand) := by
        with_unfolding_all rfl
  have hmem := List.mem_of_getElem? hkeyed
  exact ⟨hmem, (history_stamped (connectorTo []) upsertElsewhere).2 _ _ _ _ hmem⟩

end Remote

end DocStore
