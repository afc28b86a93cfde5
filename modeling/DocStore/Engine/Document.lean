import DocStore.Document
import DocStore.Extended.Normal
import DocStore.Query.Equal
import DocStore.Query.Field

/-!
This module contains the documents of a collection: their identifiers, new documents, and documents
with a patch.
-/

namespace DocStore

def Value.textCapacity : Value → Except Fault Nat
  | .list xs => .ok xs.length
  | .tuple xs => .ok xs.length
  | .set _ xs => .ok xs.length
  | .object fs => .ok fs.length
  | .text s => .ok s.length
  | _ => .error .wrongKind

/-- Whether a container holds a text: as an item, as a key, or as a part of its own text. -/
def Value.holdsText (s : List Char) : Value → Bool
  | .list xs => xs.any (·.equals (.ofText s))
  | .tuple xs => xs.any (·.equals (.ofText s))
  | .set _ xs => xs.any (·.equals (.ofText s))
  | .object fs => Fields.contains fs (.ofText s)
  | .text t => occursIn s t.toList
  | _ => false

/--
Hand out an identifier, as its digits, that a container does not hold. One that holds all is
refused.
-/
def generateId (taken : Value) : Drawing Value := fun ids =>
  match taken.textCapacity with
  | .error kind => (.error (.fault kind), ids.draw.2)
  | .ok n =>
    match ids.drawFree (fun s => taken.holdsText s) n with
    | (some i, ids) => (.ok (.ofText i.hex), ids)
    | (none, ids) => (.error (.fault .outOfRange), ids)

namespace Collection

/-- The identifiers that are taken by documents. Lists and objects take none. -/
def takenIds (docs : List Fields) : List Value :=
  (docs.map fun d => (Fields.getD d Document.idField).normalizeId).filter (·.isHashable)

def isTaken (taken : List Value) (id : Value) : Bool := taken.any (·.equals id)

def indexOf? (docs : List Fields) (id : Value) : Option Nat :=
  docs.findIdx? fun d => valuesEqual (Fields.getD d Document.idField) id

def newId (collection : String) (given : Value) (taken : List Value) : Drawing Value :=
  match given with
  | .null => generateId (.set false taken)
  | id =>
    if !id.isHashable then throw (.argument (.unhashableId id))
    else if isTaken taken id then throw (.duplicateKey (.text collection) id)
    else return id

def assemble (id : Value) (fs : Fields) (now : Moment) : Fields :=
  (.text Document.idField, id) :: Document.stripStoreFields fs
    ++ [(.text Document.createdAt, .date now), (.text Document.updatedAt, .date now)]

def newDocument (collection : String) (doc : Value) (taken : List Value) (now : Moment)
    : Drawing Fields :=
  match doc with
  | .object _ => do
    match ← Extended.normalForm doc with
    | .object fs =>
      let id ← newId collection (Fields.getD fs Document.idField).normalizeId taken
      return assemble id fs now
    | _ => throw (.fault .noOperation)
  | doc => throw (.argument (.notADocument doc))

def laterOf (now : Moment) (v : Value) : Moment :=
  match v with
  | .date m => if m.offset.isSome ∧ now.instant < m.instant then m else now
  | _ => now

/--
A document with the fields of a patch. The time of the change does not go back, nor behind the time
of the creation.
-/
def merge (doc : Fields) (patch : Value) (now : Moment) : Except Error Fields :=
  match patch with
  | .object fs =>
    let time :=
      [Document.createdAt, Document.updatedAt].foldl
        (fun t name => laterOf t (Fields.getD doc name)) now
    .ok (Fields.insert (Fields.merge doc fs) (.text Document.updatedAt) (.date time))
  | _ => .error (.fault .wrongKind)

end Collection

end DocStore
