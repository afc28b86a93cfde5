import DocStore.Engine.Search
import DocStore.Engine.Slot

/-!
This module contains the embedded engine: collections in memory, opened on first use, each with a
file in one directory. A mutation arrives, waits for the slot of its collection if somebody holds
it, and is then done as a whole.
-/

namespace DocStore

structure Store where
  name : String
  documents : List Fields
  slot : Slot := {}

def Store.describe (s : Store) (d : Disk) : String :=
  "CollectionStore(name=" ++ String.ofList (Text.quote s.name.toList) ++ ", path="
    ++ String.ofList (Text.quote (Collection.path d s.name).toList) ++
      s!", documents={s.documents.length})"

structure Engine where
  disk : Disk
  ids : IdSupply := {}
  opened : List Store := []
  cached : List (String × Nat) := []

def Engine.onEmpty (directory : String) : Engine := { disk := { root := directory } }

abbrev Action := ExceptT Error (StateM Engine)

inductive Request where
  | call (c : Call)
  | flush (collection : Value)
  | drop (collection : Value)
  | close
  | list

inductive Turn where
  | mutate (m : Mutation)
  | removeFile
  | releaseAll

/-- How a request begins: it is answered at once, or goes on when it is admitted. -/
inductive Start where
  | answered (a : Answer)
  | waits (store : Nat) (turn : Turn)

namespace Engine

def checkName (v : Value) : Except Error String :=
  match v with
  | .text name =>
    let cs := name.toList
    if cs.all Text.isBlank then .error (.argument .emptyName)
    else if name = "." ∨ name = ".." ∨ cs.any (fun c => c = '/' || c = '\\' || c.toNat = 0) then
      .error (.argument (.name name))
    else .ok name
  | _ => .error (.argument .emptyName)

def ofDrawing {α : Type} (x : Drawing α) : Action α := fun e =>
  let (r, ids) := x e.ids
  (r, { e with ids })

def store (e : Engine) (i : Nat) : Store := e.opened[i]?.getD ⟨"", [], {}⟩

def collection (name : Value) : Action Nat := do
  let name ← checkName name
  let e ← get
  match e.cached.lookup name with
  | some i => return i
  | none =>
    let documents ← ofDrawing (Collection.load e.disk name)
    modify fun e =>
      { e with opened := e.opened ++ [⟨name, documents, {}⟩], cached := e.cached ++
        [(name, e.opened.length)] }
    return e.opened.length

def snapshot (name : Value) : Action (List Fields) := do
  let i ← collection name
  return ((← get).store i).documents

def patchOf (patch : Value) : Action Value :=
  match patch with
  | .object fs => ofDrawing (Extended.normalForm (.object (Document.stripStoreFields fs)))
  | _ => throw (.fault .noOperation)

def mutation (name : Value) (m : Mutation) : Action Start :=
  return .waits (← collection name) (.mutate m)

def beginCall : Call → Action Start
  | .createOne name doc => mutation name (.create doc)
  | .createMany name docs => do
    let i ← collection name
    match ← (docs.items.mapError .fault : Except Error (List Value)) with
    | [] => return .answered (.report (.createdMany []))
    | docs => return .waits i (.mutate (.createMany docs))
  | .findOne name query sort => do
    return .answered (.document (← Collection.findOne (← snapshot name) query sort))
  | .findById name id => return .answered (.document (Collection.findById (← snapshot name) id))
  | .find name query limit skip sort => do
    let limit ← pageNumber "limit" limit
    let skip ← pageNumber "skip" skip
    return .answered (.documents (← Collection.find (← snapshot name) query limit skip sort))
  | .count name query => do
    return .answered (.number (.int (← Collection.count (← snapshot name) query)))
  | .updateOne name doc => do
    let fs ← ((Document.fieldsOf doc).mapError .fault : Except Error Fields)
    match Document.splitId fs with
    | (.null, _) => throw (.argument .noId)
    | (id, patch) =>
      let patch ← patchOf (.object patch)
      mutation name (.update id.normalizeId patch)
  | .updateMany name query patch => do
    let patch ← patchOf patch
    mutation name (.updateMany query patch)
  | .upsertOne name doc key => do
    match doc with
    | .object _ =>
      match ← ofDrawing (Extended.normalForm doc) with
      | .object fs =>
        let (key, fs) ← Document.resolveKey fs key
        mutation name (.upsert fs key)
      | _ => throw (.fault .noOperation)
    | doc => throw (.argument (.notADocument doc))
  | .deleteOne name id => mutation name (.delete id.normalizeId)
  | .deleteMany name query => mutation name (.deleteMany query)

def removeFile (name : String) : Action Bool := fun e =>
  match Filing.remove (Collection.fileName name) e.disk with
  | (.ok existed, disk) => (.ok existed, { e with disk })
  | (.error text, disk) =>
    (.error (.file (.unremoved name text) (Collection.path e.disk name)), { e with disk })

def releaseAll (e : Engine) : Engine := { e with cached := [] }

def cachedNames (e : Engine) : List String :=
  (e.cached.map (·.1)).mergeSort fun a b => textOrder a b ≠ .gt

def names (e : Engine) : List String :=
  let stored := e.disk.entries.filterMap fun f => Collection.ofFileName? f.1.text
  ((e.cached.map (·.1) ++ stored).mergeSort fun a b => textOrder a b ≠ .gt).eraseDups

def begin : Request → Action Start
  | .call c => beginCall c
  | .flush name => mutation name .flush
  | .drop name => do
    let name ← checkName name
    match (← get).cached.lookup name with
    | some i =>
      modify fun e => { e with cached := e.cached.filter fun c => c.1 ≠ name }
      return .waits i .removeFile
    | none => return .answered (.truth (← removeFile name))
  | .close => do
    let e ← get
    match e.cached.find? fun c => !(e.store c.2).slot.isFree with
    | some (_, i) => return .waits i .releaseAll
    | none =>
      modify releaseAll
      return .answered .nothing
  | .list => return .answered (.names (← get).names)

def setStore (i : Nat) (f : Store → Store) (e : Engine) : Engine :=
  { e with opened := e.opened.modify i f }

def takeTurn (now : Moment) (i : Nat) : Turn → Action Answer
  | .mutate m => fun e =>
    let s := e.store i
    let (r, h) := m.execute now ⟨s.name, s.documents, e.disk, e.ids⟩
    (r, { setStore i (fun s => { s with documents := h.documents }) e
      with disk := h.disk, ids := h.ids })
  | .removeFile => do
    let _ ← removeFile ((← get).store i).name
    return .truth true
  | .releaseAll => do
    modify releaseAll
    return .nothing

def enqueue (i : Nat) : Action Unit :=
  modify (setStore i fun s => { s with slot := s.slot.draw.2 })

def release (i : Nat) (e : Engine) : Engine :=
  setStore i (fun s => { s with slot := match s.slot.release with
    | .ok slot => slot
    | .error _ => s.slot }) e

/-- Take the turn that a ticket was drawn for, and give the slot back however the turn ends. -/
def serve (now : Moment) (i : Nat) (t : Turn) : Action Answer := fun e =>
  let (r, e) := takeTurn now i t e
  (r, release i e)

def run (now : Moment) (q : Request) : Action Answer := do
  match ← begin q with
  | .answered a => return a
  | .waits i t =>
    enqueue i
    serve now i t

inductive Arrival where
  | done (r : Except Error Answer)
  | queued (store : Nat) (turn : Turn)

def arrive (now : Moment) (q : Request) (e : Engine) : Arrival × Engine :=
  match begin q e with
  | (.error err, e) => (.done (.error err), e)
  | (.ok (.answered a), e) => (.done (.ok a), e)
  | (.ok (.waits i t), e) =>
    let free := (e.store i).slot.isFree
    let (_, e) := enqueue i e
    if free then
      let (r, e) := serve now i t e
      (.done r, e)
    else (.queued i t, e)

def settle (now : Moment) : List Arrival → Engine → List (Except Error Answer) × Engine
  | [], e => ([], e)
  | .done r :: as, e =>
    let (rs, e) := settle now as e
    (r :: rs, e)
  | .queued i t :: as, e =>
    let (r, e) := serve now i t e
    let (rs, e) := settle now as e
    (r :: rs, e)

end Engine

end DocStore
