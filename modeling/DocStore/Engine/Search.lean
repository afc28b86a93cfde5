import DocStore.Document
import DocStore.Engine.Mutation
import DocStore.Order.Sort

/-!
This module contains the searches in the documents of a collection.
-/

namespace DocStore

/-- The order of a search for one document that names none: the greatest identifier comes first. -/
def defaultSort : Value := .object [(.text Document.idField, .int (-1))]

def pageNumber (argument : String) (v : Value) : Except Error Nat :=
  match v with
  | .bool _ => .error (.argument (.page argument v))
  | v =>
    match v.integer? with
    | some n => if n < 0 then .error (.argument (.page argument v)) else .ok n.toNat
    | none => .error (.argument (.page argument v))

namespace Collection

def sorted (docs : List Fields) (sort : Value) : Except Error (List Value) := do
  let keys ← SortKey.ofValue sort
  (sortDocuments (docs.map .object) keys).mapError .fault

def findOne (docs : List Fields) (query sort : Value) : Except Error Value := do
  match ← matching query docs with
  | [] => return .null
  | found =>
    let order := match sort with
      | .null => defaultSort
      | sort => sort
    return ((← sorted found order).head?).getD .null

def findById (docs : List Fields) (id : Value) : Value :=
  match docs.find? fun d => valuesEqual (Fields.getD d Document.idField) id.normalizeId with
  | some d => .object d
  | none => .null

def find (docs : List Fields) (query : Value) (limit skip : Nat) (sort : Value) :
    Except Error (List Value) := do
  let found ← matching query docs
  let ordered ← if sort.isTruthy then sorted found sort else .ok (found.map .object)
  let rest := ordered.drop skip
  return if limit = 0 then rest else rest.take limit

def count (docs : List Fields) (query : Value) : Except Error Nat :=
  if query.isTruthy then return (← matching query docs).length else .ok docs.length

end Collection

end DocStore
