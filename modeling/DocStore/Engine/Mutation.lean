import DocStore.Connector.Report
import DocStore.Engine.Document
import DocStore.Engine.File
import DocStore.Query.Match

/-!
This module contains the mutations of a collection: what is done while its slot is held. A mutation
changes the documents in memory first and then writes the file, so that memory is ahead of the file
if the file cannot be written.
-/

namespace DocStore

structure Held where
  collection : String
  documents : List Fields
  disk : Disk
  ids : IdSupply

abbrev Holding := ExceptT Error (StateM Held)

namespace Holding

def ofDrawing {α : Type} (x : Drawing α) : Holding α := fun h =>
  let (r, ids) := x h.ids
  (r, { h with ids })

def persist : Holding Unit := fun h =>
  let (r, disk) := Collection.save h.collection h.documents h.disk
  (r, { h with disk })

def commit (docs : List Fields) : Holding Unit := do
  modify fun h => { h with documents := docs }
  persist

end Holding

inductive Mutation where
  | create (doc : Value)
  | createMany (docs : List Value)
  | update (id patch : Value)
  | updateMany (query patch : Value)
  | upsert (fields : Fields) (key : Value)
  | delete (id : Value)
  | deleteMany (query : Value)
  | flush

namespace Collection

def newDocuments (collection : String) (now : Moment)
    : List Value → List Value → Drawing (List Fields)
  | [], _ => return []
  | doc :: docs, taken => do
    let new ← newDocument collection doc taken now
    return new :: (← newDocuments collection now docs (Fields.getD new Document.idField :: taken))

/--
Merge a patch into all documents that match a query, from the first one on. A fault ends the walk,
and the documents before it stay changed.
-/
def mergeMatching (query patch : Value) (now : Moment)
    : List Fields → Except Error Nat × List Fields
  | [] => (.ok 0, [])
  | doc :: docs =>
    match isMatch (.object doc) query with
    | .error e => (.error e, doc :: docs)
    | .ok false =>
      let (r, docs) := mergeMatching query patch now docs
      (r, doc :: docs)
    | .ok true =>
      match merge doc patch now with
      | .error e => (.error e, doc :: docs)
      | .ok merged =>
        let (r, docs) := mergeMatching query patch now docs
        (r.map (· + 1), merged :: docs)

def matching (query : Value) (docs : List Fields) : Except Error (List Fields) :=
  match docs with
  | [] => .ok []
  | doc :: docs => do
    let holds ← isMatch (.object doc) query
    let rest ← matching query docs
    return if holds then doc :: rest else rest

def unmatched (query : Value) (docs : List Fields) : Except Error (List Fields) :=
  match docs with
  | [] => .ok []
  | doc :: docs => do
    let holds ← isMatch (.object doc) query
    let rest ← unmatched query docs
    return if holds then rest else doc :: rest

def hasInField (key v : Value) (doc : Fields) : Bool :=
  match getField (.object doc) key with
  | .ok w => valuesEqual w v
  | .error _ => false

/--
The place of the document that an upsert changes: the one with the identifier, or else the first one
with the value in the field of the key.
-/
def upsertIndex? (docs : List Fields) (fs : Fields) (key : Value) : Option Nat :=
  let byId := match (Fields.getD fs Document.idField).normalizeId with
    | .null => none
    | id => indexOf? docs id
  byId.orElse fun _ =>
    match key with
    | .null => none
    | key => docs.findIdx? (hasInField key ((Fields.get? fs key).getD .null))

end Collection

namespace Mutation

def updated (n : Nat) : Report := .updated (.int n) (.int n)

def change (index : Nat) (patch : Value) (now : Moment) : Holding Report := do
  let docs := (← get).documents
  match docs[index]? with
  | none => return updated 0
  | some doc =>
    let merged ← (Collection.merge doc patch now : Except Error Fields)
    Holding.commit (docs.set index merged)
    return updated 1

def append (doc : Value) (now : Moment) : Holding Value := do
  let h ← get
  let new ← .ofDrawing
    (Collection.newDocument h.collection doc (Collection.takenIds h.documents) now)
  Holding.commit (h.documents ++ [new])
  return Fields.getD new Document.idField

def execute (now : Moment) : Mutation → Holding Answer
  | .create doc => return .report (.created (← append doc now))
  | .createMany docs => do
    let h ← get
    let new ← .ofDrawing
      (Collection.newDocuments h.collection now docs (Collection.takenIds h.documents))
    Holding.commit (h.documents ++ new)
    return .report (.createdMany (new.map (Fields.getD · Document.idField)))
  | .update id patch => do
    match Collection.indexOf? (← get).documents id with
    | none => return .report (updated 0)
    | some index => return .report (← change index patch now)
  | .updateMany query patch => do
    let (r, docs) := Collection.mergeMatching query patch now (← get).documents
    modify fun h => { h with documents := docs }
    let n ← r
    if n ≠ 0 then Holding.persist
    return .report (updated n)
  | .upsert fs key => do
    match Collection.upsertIndex? (← get).documents fs key with
    | some index => return .report (← change index (.object (Document.stripStoreFields fs)) now)
    | none => return .report (.upserted (← append (.object fs) now))
  | .delete id => do
    let docs := (← get).documents
    match Collection.indexOf? docs id with
    | none => return .report (.deleted (.int 0))
    | some index =>
      Holding.commit (docs.eraseIdx index)
      return .report (.deleted (.int 1))
  | .deleteMany query => do
    let docs := (← get).documents
    let kept ← (Collection.unmatched query docs : Except Error (List Fields))
    if kept.length < docs.length then Holding.commit kept
    return .report (.deleted (.int ((docs.length : Int) - kept.length)))
  | .flush => do
    Holding.persist
    return .nothing

end Mutation

end DocStore
