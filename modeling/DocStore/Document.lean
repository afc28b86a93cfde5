import DocStore.Identifier
import DocStore.Error
import DocStore.Value.Sequence

/-!
This module contains the fields of a document that belong to the store, and the parts of a call that
names a document: its identifier, its patch, and the field by which it is looked up.
-/

namespace DocStore

namespace Document

def idField : String := "_id"

def createdAt : String := "createdAt"

def updatedAt : String := "updatedAt"

def designatorField : String := "key"

def storeFields : List String := [idField, createdAt, updatedAt]

def stripStoreFields (fs : Fields) : Fields :=
  fs.filter fun f => !storeFields.any fun name => f.1.equals (.text name)

def fieldOf (v : Value) : Except Fault (Value × Value) := do
  let (k, w) ← v.pair
  if k.isHashable then .ok (k, w) else .error .wrongKind

def fieldsOf (doc : Value) : Except Fault Fields :=
  match doc with
  | .object fs => .ok fs
  | v => do return Fields.ofList (← (← v.items).mapM fieldOf)

/-- Split the identifier from the other fields; the longer name wins over the shorter one. -/
def splitId (fs : Fields) : Value × Fields :=
  let given := Fields.getD fs idField
  let other := Fields.getD fs "id"
  let rest := Fields.erase (Fields.erase fs (.text idField)) (.text "id")
  (match given with | .null => other | v => v, rest)

/--
The field by which a document is looked up beside its identifier, and the fields to store. A field
that is asked for must have a value. A designator counts only if it names another field with a
value, and is then not stored.
-/
def resolveKey (fs : Fields) (key : Value) : Except Error (Value × Fields) :=
  match key with
  | .null =>
    match Fields.getD fs designatorField with
    | .text name =>
      if name = designatorField then .ok (.null, fs)
      else match Fields.getD fs name with
        | .null => .ok (.null, fs)
        | _ => .ok (.text name, Fields.erase fs (.text designatorField))
    | _ => .ok (.null, fs)
  | key =>
    if !key.isHashable then .error (.fault .wrongKind)
    else match (Fields.get? fs key).getD .null with
      | .null => .error (.argument (.noKeyField key))
      | _ => .ok (key, fs)

end Document

end DocStore
