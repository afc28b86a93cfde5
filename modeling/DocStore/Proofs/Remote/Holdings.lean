import DocStore.Proofs.Engine.Unique
import DocStore.Proofs.Remote.Upsert

/-!
This module contains a server that stores and returns what it is sent, as far as the identifiers of
documents go, and what such a server makes of the work of a connector: what it holds before and
after the commands that it is told.
-/

namespace DocStore

namespace Value

/-- The identifier as the server has it. -/
def atServer (id : Value) : Value := id.normalizeId.toObjectId

def isName : Value → Bool
  | .text _ => true
  | .id _ => true
  | _ => false

end Value

namespace Remote

open Work

open Collection (idOf)

inductive IsPlaced : Value → Value → Prop where
  | sent {id} (h : id ≠ .null) : IsPlaced id id
  | drawn (i : ObjectId) : IsPlaced .null (.id i)

theorem IsPlaced.ne_null {id k : Value} (h : IsPlaced id k) : k ≠ .null := by
  cases h with
  | sent h => exact h
  | drawn i => exact nofun

def IsFrom (held : List Value) (query : Fields) (doc : Value) : Prop :=
  ∃ fs, doc = .object fs ∧ idOf fs ∈ held ∧ ((idOf query).isName = true → idOf fs = idOf query)

/-- A query that asks for nothing but a name asks for none that is held. -/
def Misses (held : List Value) (query : Fields) : Prop :=
  ∀ id, query = [(.text Document.idField, id)] → id.isName = true → id ∉ held

/--
The reply to a command of a server that holds documents under some identifiers, and those under
which it then does.
-/
inductive Stores (held : List Value) : Command → Reply → List Value → Prop where
  | inserted {payload k r} (placed : IsPlaced (idOf payload) k) (tells : r.insertedId = some k) :
      Stores held (.insertOne payload) (.result r) (held ++ [k])
  | insertedMany {payloads ks r}
  (placed : List.Forall₂ (fun payload k => IsPlaced (idOf payload) k) payloads ks)
      (tells : r.insertedIds = some (.list ks)) :
      Stores held (.insertMany payloads) (.result r) (held ++ ks)
  /-- A bulk that is refused may have been inserted in part. -/
  | insertedSome {payloads ks f}
      (placed : ∀ k ∈ ks, ∃ payload ∈ payloads, IsPlaced (idOf payload) k) :
      Stores held (.insertMany payloads) (.failure f) (held ++ ks)
  | upserted {query change k r} (placed : IsPlaced (idOf (change.setOnInsert.getD [])) k)
      (tells : r.upsertedId = k) :
      Stores held (.updateOne query change true) (.result r) (held ++ [k])
  | updated {query change upsert r} (tells : r.upsertedId = .null) :
      Stores held (.updateOne query change upsert) (.result r) held
  | updatedMany {query change r} : Stores held (.updateMany query change) (.result r) held
  | lookedUp {query r} (h : IsFrom held query r.document) :
      Stores held (.lookUp query) (.result r) held
  | missed {query r} (tells : r.document = .null) (h : Misses held query) :
      Stores held (.lookUp query) (.result r) held
  | foundOne {query sort r} (h : IsFrom held query r.document) :
      Stores held (.findOne query sort) (.result r) held
  | foundNone {query sort r} (tells : r.document = .null) (h : Misses held query) :
      Stores held (.findOne query sort) (.result r) held
  | found {query ds r} (tells : r.documents = .list ds) (h : ∀ d ∈ ds, IsFrom held query d) :
      Stores held (.find query) (.result r) held
  | counted {query r} : Stores held (.countDocuments query) (.result r) held
  | deletedOne {query r held'} (rest : held'.Sublist held) :
      Stores held (.deleteOne query) (.result r) held'
  | deletedMany {query r held'} (rest : held'.Sublist held) :
      Stores held (.deleteMany query) (.result r) held'
  | failed {command f} : Stores held command (.failure f) held

inductive StoresAll : List Value → List (Command × Reply) → List Value → Prop where
  | nil {held} : StoresAll held [] held
  | cons {held mid held' command reply told} (first : Stores held command reply mid)
      (rest : StoresAll mid told held') : StoresAll held ((command, reply) :: told) held'

theorem storesAll_nil {held held' : List Value} (h : StoresAll held [] held') : held' = held := by
  cases h
  rfl

theorem storesAll_singleton {held held' : List Value} {command : Command} {reply : Reply}
    (h : StoresAll held [(command, reply)] held') : Stores held command reply held' := by
  cases h with
  | cons first rest => rwa [storesAll_nil rest]

theorem storesAll_append {held held' : List Value} {told more : List (Command × Reply)}
    (h : StoresAll held (told ++ more) held')
    : ∃ mid, StoresAll held told mid ∧ StoresAll mid more held' := by
  induction told generalizing held with
  | nil => exact ⟨held, .nil, h⟩
  | cons t told ih =>
    cases h with
    | cons first rest =>
      obtain ⟨mid, hbefore, hafter⟩ := ih rest
      exact ⟨mid, .cons first hbefore, hafter⟩

theorem tells_of_talks {α : Type} {x : Exchange α}
    (h : Talks (fun call => call.isCommand = false) (fun _ _ _ => True) x) (s : State)
    : Tells s [] (x s).2 := by
  obtain ⟨calls, htalk, hcalls, _⟩ := h s
  exact ⟨calls, htalk, Server.told_eq_nil hcalls⟩

def Unserved (told : List (Command × Reply)) : Prop :=
  told = [] ∨ ∃ command f, (command, Reply.failure f) ∈ told

theorem unserved_failure (command : Command) (f : RemoteFault) : Unserved [(command, .failure f)] :=
  .inr ⟨command, f, List.mem_singleton_self _⟩

def Meets {α : Type} (s : State) (x : Exchange α)
    (Q : List Value → List (Command × Reply) → Except Error α → List Value → Prop) : Prop :=
  ∃ told, Tells s told (x s).2 ∧ ∀ held held', StoresAll held told held' → Q held told (x s).1 held'

section

variable {α β : Type} {s t : State} {Q : List Value → List (Command × Reply) → Except Error α →
  List Value → Prop}

theorem Meets.toldBetween {x : Exchange α} (h : Meets s x Q) {held held' : List Value}
    (hstores : StoresAll held (toldBetween s (x s).2) held')
    : Q held (toldBetween s (x s).2) (x s).1 held' := by
  obtain ⟨told, htells, hQ⟩ := h
  rw [htells.toldBetween] at hstores ⊢
  exact hQ held held' hstores

theorem Meets.imp {Q' : List Value → List (Command × Reply) → Except Error α → List Value → Prop}
    {x : Exchange α}
    (h : Meets s x Q) (himp : ∀ held told r held', Q held told r held' → Q' held told r held')
    : Meets s x Q' := by
  obtain ⟨told, htells, hQ⟩ := h
  exact ⟨told, htells, fun held held' hstores => himp _ _ _ _ (hQ held held' hstores)⟩

theorem meets_of_eq {x y : Exchange α} (h : x s = y t) (htells : Tells s [] t) (hy : Meets t y Q)
    : Meets s x Q := by
  obtain ⟨told, htells', hQ⟩ := hy
  unfold Meets
  rw [h]
  exact ⟨told, htells.trans htells', hQ⟩

theorem meets_silent {x : Exchange α} (htells : Tells s [] (x s).2)
    (hQ : ∀ held, Q held [] (x s).1 held)
    : Meets s x Q := by
  refine ⟨[], htells, fun held held' hstores => ?_⟩
  rw [storesAll_nil hstores]
  exact hQ held

theorem meets_bind_told {x : Exchange β} {f : β → Exchange α} {b : β}
    {told : List (Command × Reply)}
    (hx : x s = (.ok b, t)) (htells : Tells s told t)
    (hf : Meets t (f b) fun mid more r held' => ∀ held, StoresAll held told mid →
      Q held (told ++ more) r held')
    : Meets s (x >>= f) Q := by
  obtain ⟨more, htells', hQ⟩ := hf
  unfold Meets
  rw [bind_ok hx]
  refine ⟨told ++ more, htells.trans htells', ?_⟩
  intro held held' hstores
  obtain ⟨mid, hbefore, hafter⟩ := storesAll_append hstores
  exact hQ mid held' hafter held hbefore

theorem meets_bind_silent {x : Exchange β} {f : β → Exchange α} {b : β} (hx : x s = (.ok b, t))
    (htells : Tells s [] t)
    (hf : Meets t (f b) Q) : Meets s (x >>= f) Q := by
  apply meets_bind_told hx htells
  apply hf.imp
  intro mid more r held' hQ held hstores
  rw [storesAll_nil hstores] at hQ
  exact hQ

theorem meets_error {x : Exchange α} {err : Error} (hx : x s = (.error err, t))
    (htells : Tells s [] t)
    (hQ : ∀ held, Q held [] (.error err) held) : Meets s x Q := by
  refine meets_silent ?_ ?_
  . rw [hx]
    exact htells
  . rw [hx]
    exact hQ

theorem meets_bind_databaseFor {collection : Value} {f : Value → Exchange α}
    (hf : ∀ db t, databaseFor collection s = (.ok db, t) → Meets t (f db) Q)
    (herror : ∀ err held, Q held [] (.error err) held)
    : Meets s (databaseFor collection >>= f) Q := by
  have htells := tells_databaseFor collection s
  rcases hdb : databaseFor collection s with ⟨r, t⟩
  rw [hdb] at htells
  cases r with
  | ok db => exact meets_bind_silent hdb htells (hf db t hdb)
  | error err => exact meets_error (bind_error hdb) htells (herror err)

theorem meets_bind_liftFault {x : Except Fault β} {f : β → Exchange α}
    (hf : ∀ b, x = .ok b → Meets s (f b) Q)
    (herror : ∀ err held, Q held [] (.error err) held) : Meets s (liftFault x >>= f) Q := by
  cases x with
  | ok b => exact hf b rfl
  | error kind => exact meets_silent (.refl s) fun held => herror _ held

theorem meets_bind_lift {x : Except Error β} {f : β → Exchange α}
    (hf : ∀ b, x = .ok b → Meets s (f b) Q)
    (herror : ∀ err held, Q held [] (.error err) held) : Meets s (liftM x >>= f) Q := by
  cases x with
  | ok b => exact hf b rfl
  | error err => exact meets_silent (.refl s) fun held => herror _ held

theorem meets_bind_send {db collection : Value} {command : Command} {f : Result → Exchange α}
    (hsilent : ∀ r t, Tells t [] (f r t).2)
    (hresult : ∀ r t held held', Stores held command (.result r) held' →
      Q held [(command, .result r)] (f r t).1 held')
    (hfailure : ∀ fault held held', Stores held command (.failure fault) held' →
      Q held [(command, .failure fault)] (.error (.remote fault)) held')
    : Meets s (send db collection command >>= f) Q := by
  have hsend := send_eq s db collection command
  have htells := tells_sent s db collection command
  unfold Meets
  cases hreply : s.server.reply with
  | result r =>
    rw [hreply] at hsend htells
    rw [bind_ok hsend]
    refine ⟨_, htells.trans (hsilent r _), ?_⟩
    intro held held' hstores
    exact hresult r _ held held' (storesAll_singleton hstores)
  | failure fault =>
    rw [hreply] at hsend htells
    rw [bind_error hsend]
    refine ⟨_, htells, ?_⟩
    intro held held' hstores
    exact hfailure fault held held' (storesAll_singleton hstores)

theorem meets_map {x : Exchange β} (g : β → α)
    (h : Meets s x fun held told r held' => Q held told (r.map g) held')
    : Meets s (do return g (← x)) Q := by
  obtain ⟨told, htells, hQ⟩ := h
  unfold Meets
  rcases hx : x s with ⟨r, t⟩
  rw [hx] at htells hQ
  cases r with
  | ok b =>
    rw [bind_ok hx]
    exact ⟨told, htells, hQ⟩
  | error err =>
    rw [bind_error hx]
    exact ⟨told, htells, hQ⟩

end

end Remote

end DocStore
