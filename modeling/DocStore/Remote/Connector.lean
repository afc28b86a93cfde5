import DocStore.Connector.Report
import DocStore.Engine.Search
import DocStore.Remote.Query
import DocStore.Remote.Session

/-!
This module contains the connector to a server: each call is sent as one command, an upsert as up to
two.
-/

namespace DocStore.Remote

def objectFields (doc : Value) : Exchange Fields :=
  match doc with
  | .object fs => return fs
  | _ => throw (.fault .noOperation)

def createOne (now : Moment) (collection doc : Value) : Exchange Value := do
  let sent := payload (← objectFields doc) now
  let r ← tryCatch (do send (← databaseFor collection) collection (.insertOne sent)) fun
    | .remote (.duplicateKey _) =>
      throw (.duplicateKey collection (Fields.getD sent Document.idField).normalizeId)
    | e => throw e
  match r.insertedId with
  | some id => return id.normalizeId
  | none => throw (.fault .noOperation)

def duplicateKeyCode : Value := .int 11000

def entry (v : Value) (name : String) (default : Value) : Exchange Value := do
  return (Fields.get? (← objectFields v) (.text name)).getD default

def firstDuplicate : List Value → Exchange (Option Value)
  | [] => return none
  | e :: es => do
    if (← entry e "code" .null).equals duplicateKeyCode then return some e else firstDuplicate es

def bulkError {α : Type} (collection details : Value) : Exchange α := do
  let errors ← liftFault (← entry details "writeErrors" (.list [])).items
  match ← firstDuplicate errors with
  | some e =>
    let id ← entry (← entry e "op" (.object [])) Document.idField .null
    throw (.duplicateKey collection id.normalizeId)
  | none => throw (.remote (.bulkWrite details))

def createMany (now : Moment) (collection docs : Value) : Exchange (List Value) := do
  match ← liftFault docs.items with
  | [] => return []
  | docs =>
    let sent ← docs.mapM fun doc => return payload (← objectFields doc) now
    let r ← tryCatch (do send (← databaseFor collection) collection (.insertMany sent)) fun
      | .remote (.bulkWrite details) => bulkError collection details
      | e => throw e
    match r.insertedIds with
    | some ids => return (← liftFault ids.items).map (·.normalizeId)
    | none => throw (.fault .noOperation)

def sortKeys (sort : Value) : Except Error (Option (List SortKey)) :=
  if sort.isTruthy then some <$> SortKey.ofValue sort else .ok none

def find (collection query limit skip sort : Value) : Exchange (List Value) := do
  let _ ← (pageNumber "limit" limit : Except Error Nat)
  let _ ← (pageNumber "skip" skip : Except Error Nat)
  let db ← databaseFor collection
  let query ← liftFault (prepareQuery query)
  let r ← send db collection (.find query)
  record (.skip skip)
  record (.limit limit)
  match ← (sortKeys sort : Except Error (Option (List SortKey))) with
  | none => pure ()
  | some [] => pure ()
  | some keys => record (.sort keys)
  let docs ← liftFault r.documents.items
  docs.mapM fun d => liftFault (publicDocument d)

def updated (r : Result) : Report := .updated r.matched r.modified

/--
Change the document with the identifier; else change or insert the one with the value in the field
of the key; else insert a document.
-/
def upsertOne (now : Moment) (collection doc key : Value) : Exchange Report := do
  let fs ← liftFault (Document.fieldsOf doc)
  let (key, fs) ← (Document.resolveKey fs key : Except Error (Value × Fields))
  let id := (Fields.getD fs Document.idField).normalizeId
  let db ← databaseFor collection
  let set := changedFields fs now
  let byId ← match id with
    | .null => pure none
    | id => some <$> send db collection (.updateOne (idQuery id) ⟨set, none⟩ false)
  match byId.filter (·.matched.isTruthy), key with
  | some r, _ => return updated r
  | none, .null => return .upserted (← createOne now collection (.object fs))
  | none, key =>
    let onInsert : Fields := (.text Document.createdAt, .date now) :: (match id with
      | .null => []
      | id => idQuery id)
    let query : Fields := [(key, (Fields.get? fs key).getD .null)]
    let r ← send db collection (.updateOne query ⟨set, some onInsert⟩ true)
    match r.upsertedId with
    | .null => return updated r
    | id => return .upserted id.normalizeId

def run (now : Moment) : Call → Exchange Answer
  | .createOne collection doc => return .report (.created (← createOne now collection doc))
  | .createMany collection docs => return .report (.createdMany (← createMany now collection docs))
  | .findOne collection query sort => do
    let db ← databaseFor collection
    let query ← liftFault (prepareQuery query)
    let keys ← (sortKeys (match sort with | .null => defaultSort | sort => sort) :
      Except Error (Option (List SortKey)))
    let r ← send db collection (.findOne query keys)
    return .document (← liftFault (publicDocument r.document))
  | .findById collection id => do
    let r ← send (← databaseFor collection) collection (.lookUp (idQuery id))
    return .document (← liftFault (publicDocument r.document))
  | .find collection query limit skip sort =>
    return .documents (← find collection query limit skip sort)
  | .count collection query => do
    let db ← databaseFor collection
    let query ← liftFault (prepareQuery query)
    return .number (← send db collection (.countDocuments query)).count
  | .updateOne collection doc => do
    let fs ← liftFault (Document.fieldsOf doc)
    match Document.splitId fs with
    | (.null, _) => throw (.argument .noId)
    | (id, patch) =>
      let r ← send (← databaseFor collection) collection
        (.updateOne (idQuery id) ⟨changedFields patch now, none⟩ false)
      return .report (updated r)
  | .updateMany collection query patch => do
    let db ← databaseFor collection
    let query ← liftFault (prepareQuery query)
    let patch ← objectFields patch
    return .report
      (updated (← send db collection (.updateMany query ⟨changedFields patch now, none⟩)))
  | .upsertOne collection doc key => return .report (← upsertOne now collection doc key)
  | .deleteOne collection id => do
    return .report
      (.deleted (← send (← databaseFor collection) collection (.deleteOne (idQuery id))).deleted)
  | .deleteMany collection query => do
    let db ← databaseFor collection
    let query ← liftFault (prepareQuery query)
    return .report (.deleted (← send db collection (.deleteMany query)).deleted)

end DocStore.Remote
