import DocStore.Document

/-!
This module contains the queries and documents that cross the border to a server. The server has
identifiers where the caller has their digits.
-/

namespace DocStore.Remote

def convertField (fs : Fields) (name : String) (f : Value → Except Fault Value)
    : Except Fault Fields :=
  match Fields.get? fs (.text name) with
  | none => .ok fs
  | some v => do return Fields.insert fs (.text name) (← f v)

def idsOf (v : Value) : Except Fault Value := do
  return .list ((← v.items).map (·.toObjectId))

def prepareCondition (condition : Value) : Except Fault Value :=
  match condition with
  | .object fs => do
    let fs ← convertField fs "$eq" fun v => .ok v.toObjectId
    let fs ← convertField fs "$ne" fun v => .ok v.toObjectId
    let fs ← convertField fs "$in" idsOf
    let fs ← convertField fs "$nin" idsOf
    return .object fs
  | condition => .ok condition.toObjectId

def prepareQuery (query : Value) : Except Fault Fields :=
  if !query.isTruthy then .ok []
  else do
    let fs ← Document.fieldsOf query
    match Fields.getD fs Document.idField with
    | .null => return fs
    | condition =>
      return Fields.insert fs (.text Document.idField) (← prepareCondition condition)

def publicDocument (v : Value) : Except Fault Value :=
  match v with
  | .null => .ok .null
  | .object fs =>
    match Fields.getD fs Document.idField with
    | .id i => .ok (.object (Fields.insert fs (.text Document.idField) (Value.id i).normalizeId))
    | _ => .ok (.object fs)
  | _ => .error .noOperation

def idQuery (id : Value) : Fields := [(.text Document.idField, id.normalizeId.toObjectId)]

def changedFields (patch : Fields) (now : Moment) : Fields :=
  Document.stripStoreFields patch ++ [(.text Document.updatedAt, .date now)]

def payload (doc : Fields) (now : Moment) : Fields :=
  Document.stripStoreFields doc
    ++ [(.text Document.createdAt, .date now), (.text Document.updatedAt, .date now)]
    ++ (match Fields.getD doc Document.idField with
      | .null => []
      | id => [(.text Document.idField, id.normalizeId.toObjectId)])

end DocStore.Remote
