import DocStore.Fault
import DocStore.Json.Plain
import DocStore.Path
import DocStore.Text.Case
import DocStore.Text.Class
import DocStore.Value.Written

/-!
This module contains the settings: what the environment says, over which goes what a file says.
-/

namespace DocStore

/-- The settings. A file may give any of them any value, and may give others. -/
structure Settings where
  useServer : Value
  serverUrl : Value
  databaseName : Value
  serverOptions : Value
  dataDirectory : Value
  storageSubdirectory : Value
  others : Fields := []

namespace Settings

def affirmations : List String := ["1", "true", "yes", "on"]

def flag (given : Option String) (default : Bool) : Bool :=
  match given with
  | none => default
  | some s => affirmations.contains (String.ofList ((Text.strip s.toList).map Text.toLower))

def defaultOptions : Value :=
  .ofFields [("maxPoolSize", .int 20), ("connectTimeoutMS", .int 5000),
    ("serverSelectionTimeoutMS", .int 5000),
    ("socketTimeoutMS", .int 30000), ("retryWrites", .bool true), ("retryReads", .bool true)]

def ofEnvironment (lookUp? : String → Option String) : Settings where
  useServer := .bool (flag (lookUp? "DATAP_USE_MONGO") false)
  serverUrl := ((lookUp? "MONGODB_URL").map .text).getD .null
  databaseName := .text ((lookUp? "DATAP_DATABASE_NAME").getD "datap")
  serverOptions := defaultOptions
  dataDirectory := .text ((lookUp? "DATAP_DATA_DIR").getD "data/")
  storageSubdirectory := .text "storage"

def default : Settings := ofEnvironment fun _ => none

def fixedNames : List String :=
  ["__dict__", "__mro__", "__base__", "__basicsize__", "__itemsize__", "__flags__",
   "__weakrefoffset__",
   "__dictoffset__", "__text_signature__"]

def refusal? (name : String) (v : Value) : Option Fault :=
  if fixedNames.contains name then some .noOperation
  else match name, v with
    | "__class__", _ => some .wrongKind
    | "__bases__", _ => some .wrongKind
    | "__qualname__", .text _ => none
    | "__qualname__", _ => some .wrongKind
    | "__name__", .text s => if s.toList.contains '\x00' then some .badValue else none
    | "__name__", _ => some .wrongKind
    | _, _ => none

def set (s : Settings) (name : String) (v : Value) : Except Fault Settings :=
  match refusal? name v with
  | some kind => .error kind
  | none =>
    .ok (match name with
      | "USE_MONGO" => { s with useServer := v }
      | "MONGODB_URL" => { s with serverUrl := v }
      | "DATABASE_NAME" => { s with databaseName := v }
      | "MONGODB_OPTIONS" => { s with serverOptions := v }
      | "DATA_DIR" => { s with dataDirectory := v }
      | "STORAGE_SUBDIR" => { s with storageSubdirectory := v }
      | name => { s with others := Fields.insert s.others (.text name) v })

def setAll (s : Settings) : Fields → Settings
  | [] => s
  | (name, v) :: fs =>
    match s.set (String.ofList name.plain) v with
    | .ok s => s.setAll fs
    | .error _ => s

/-- The settings with what the text of a file says. A text that is no object says nothing. -/
def override (s : Settings) (file : List Char) : Settings :=
  match (Json.read file).map Json.toValue with
  | .ok (.object fs) => s.setAll fs
  | _ => s

def load (lookUp? : String → Option String) (file? : String → Option (List Char)) : Settings :=
  let s := ofEnvironment lookUp?
  match (lookUp? "CONFIG_PATH").filter (· ≠ "") with
  | none => s
  | some path => ((file? path).map s.override).getD s

def fields (s : Settings) : Fields :=
  [(.text "USE_MONGO", s.useServer), (.text "MONGODB_URL", s.serverUrl),
   (.text "DATABASE_NAME", s.databaseName),
   (.text "MONGODB_OPTIONS", s.serverOptions), (.text "DATA_DIR", s.dataDirectory),
   (.text "STORAGE_SUBDIR", s.storageSubdirectory)]
  ++ s.others.filter fun f => f.1.plain.head? ≠ some '_'

/--
The name under which the directory of the storage is asked for. A setting of that name hides it.
-/
def directoryName : String := "storage_dir"

def storageDirectory (s : Settings) : Except Fault String :=
  match Fields.get? s.others (.text directoryName), s.dataDirectory, s.storageSubdirectory with
  | none, .text data, .text subdirectory =>
    .ok (String.ofList (Path.join data.toList subdirectory.toList))
  | _, _, _ => .error .wrongKind

end Settings

end DocStore
