import DocStore.Extended.Fault
import DocStore.Extended.Encode
import DocStore.Value.Written

/-!
This module contains the errors of the library and what is said of them.
-/

namespace DocStore

inductive ArgumentFault where
  | noKeyField (key : Value)
  | noId
  | direction (given field : Value)
  | notAList (operator : String) (given : Value)
  | pattern (given : Value) (reason : String)
  | unstorable (fault : Extended.EncodeFault)
  | emptyName
  | name (given : String)
  | notADocument (given : Value)
  | unhashableId (given : Value)
  | page (argument : String) (given : Value)
  | remoteSettings
  | storageSettings
  | noRemoteAddress

inductive RemoteFault where
  | duplicateKey (text : String)
  | bulkWrite (details : Value)
  | other (name text : String)

inductive FileFault where
  | unread (reason : String)
  | malformed (reason : String)
  | notDocuments
  | unstorable (collection : String) (fault : Extended.EncodeFault)
  | unwritten (collection reason : String)
  | unremoved (collection reason : String)

inductive Error where
  | argument (fault : ArgumentFault)
  | duplicateKey (collection id : Value)
  | file (cause : FileFault) (path : String)
  | invalidId (text : String)
  | remote (cause : RemoteFault)
  | fault (kind : Fault)

namespace ArgumentFault

def shown (v : Value) : String := String.ofList v.written

def message : ArgumentFault → String
  | .noKeyField key =>
  "Upsert key field '" ++ String.ofList key.plain ++ "' is missing from the document"
  | .noId => "Either _id or id must be provided"
  | .direction given field =>
    "Invalid sort direction " ++ shown given ++ " for field '" ++ String.ofList field.plain ++ "'"
  | .notAList operator given => s!"{operator} needs a list of values, got {given.kindName}"
  | .pattern given reason => "Invalid $regex pattern " ++ shown given ++ ": " ++ reason
  | .unstorable fault => "Document holds a value that cannot be stored: " ++ fault.message
  | .emptyName => "Collection name must be a non-empty string"
  | .name given => "Invalid collection name: " ++ shown (.text given)
  | .notADocument given => s!"Documents must be dicts, got {given.kindName}"
  | .unhashableId given => s!"_id must be a hashable value, got {given.kindName}"
  | .page argument given => s!"{argument} must be a non-negative integer, got " ++ shown given
  | .remoteSettings => "mongo config needs both 'url' and 'db_name'"
  | .storageSettings => "json config needs 'db_path'"
  | .noRemoteAddress => "USE_MONGO is set but MONGODB_URL is empty"

end ArgumentFault

namespace RemoteFault

def message : RemoteFault → String
  | .duplicateKey text => text
  | .bulkWrite details =>
    "batch op errors occurred, full error: " ++ String.ofList details.written
  | .other _ text => text

end RemoteFault

namespace FileFault

def message : FileFault → String
  | .unread reason => s!"Failed to read collection file: {reason}"
  | .malformed reason => s!"Collection file is not valid JSON: {reason}"
  | .notDocuments => "Collection file must hold a JSON array of objects"
  | .unstorable collection fault =>
    s!"Collection '{collection}' holds a value that cannot be stored: " ++ fault.message
  | .unwritten collection reason => s!"Failed to write collection '{collection}': {reason}"
  | .unremoved collection reason => s!"Failed to drop collection '{collection}': {reason}"

end FileFault

namespace Error

def storageText (text : String) (path : Option String) : String :=
  match path with
  | none => text
  | some "" => text
  | some p => s!"{text} (path: {p})"

def message? : Error → Option String
  | .argument cause => some cause.message
  | .duplicateKey collection id =>
    some ("Duplicate _id '" ++ String.ofList id.plain ++ "' in collection '" ++
      String.ofList collection.plain ++ "'")
  | .file cause path => some (storageText cause.message (some path))
  | .invalidId text => some text
  | .remote cause => some cause.message
  | .fault _ => none

def ofDecodeFault (e : Extended.DecodeFault) : Error :=
  match e.fault? with
  | some kind => .fault kind
  | none => .invalidId e.message

end Error

end DocStore
