import DocStore.Disk.Replace
import DocStore.Extended.Normal
import DocStore.Json.Writer

/-!
This module contains the file of a collection: the text of its documents in typed form.
-/

namespace DocStore

namespace Collection

def fileSuffix : String := ".json"

def temporaryPrefix : String := ".tmp_"

def fileName (collection : String) : String := collection ++ fileSuffix

def ofFileName? (name : String) : Option String :=
  let cs := name.toList
  let suffix := fileSuffix.toList
  if suffix.isSuffixOf cs && !temporaryPrefix.toList.isPrefixOf cs then
    some (String.ofList (cs.take (cs.length - suffix.length)))
  else none

def path (d : Disk) (collection : String) : String := d.path (.given (fileName collection))

def textOf (docs : List Fields) : Except Extended.EncodeFault (List Char) := do
  return (← Extended.encode .indented (.list (docs.map .object))).write .indented

/-- The error of a typed text that has no value. Only some faults are said to lie in the file. -/
def loadError (path : String) (s : List Char) : Extended.LoadFault → Error
  | .json refusal => .file (.malformed (refusal.message s)) path
  | .value e =>
    match e.fault? with
    | some .wrongKind => .file (.malformed e.message) path
    | some .badValue => .file (.malformed e.message) path
    | some .badDate => .file (.malformed e.message) path
    | some .badBase64 => .file (.malformed e.message) path
    | some kind => .fault kind
    | none => .invalidId e.message

def documentsOf? (vs : List Value) : Option (List Fields) :=
  vs.mapM fun v => match v with
    | .object fs => some fs
    | _ => none

def ofText (path : String) (s : List Char) : Drawing (List Fields) := fun ids =>
  if s.all Text.isBlank then (.ok [], ids)
  else match Extended.load s ids with
    | (.ok (.list vs), ids) =>
      match documentsOf? vs with
      | some docs => (.ok docs, ids)
      | none => (.error (.file .notDocuments path), ids)
    | (.ok _, ids) => (.error (.file .notDocuments path), ids)
    | (.error e, ids) => (.error (loadError path s e), ids)

def load (d : Disk) (collection : String) : Drawing (List Fields) :=
  let name := FileName.given (fileName collection)
  match d.get? name with
  | none => return []
  | some .directory => throw (.file (.unread (d.directoryText name)) (d.path name))
  | some (.file (.bytes _)) => throw (.fault .notUtf8)
  | some (.file (.text s)) => ofText (d.path name) (Content.unifyLines s)

def save (collection : String) (docs : List Fields) (d : Disk) : Except Error Unit × Disk :=
  match textOf docs with
  | .error .date => (.error (.fault .outOfRange), d)
  | .error e => (.error (.file (.unstorable collection e) (path d collection)), d)
  | .ok s =>
    match Filing.replace (fileName collection) s d with
    | (.ok (), d) => (.ok (), d)
    | (.error text, d) => (.error (.file (.unwritten collection text) (path d collection)), d)

end Collection

end DocStore
