import DocStore.Connector.Basic

/-!
This module contains the choice of connectors by a configuration, which may ask for a server, for an
embedded engine, for both or for none.
-/

namespace DocStore

structure Choice where
  server : Option Remote.State
  engine : Option Engine

namespace Choice

def fieldsOf (config : Value) : Except Error Fields :=
  match config with
  | .object fs => .ok fs
  | _ => .error (.fault .noOperation)

def first? (fs : Fields) (names : List String) : Option Value :=
  (names.map (Fields.getD fs)).find? (·.isTruthy)

def serverOf (config : Value) : Except Error Remote.State := do
  let fs ← fieldsOf config
  match first? fs ["url"], first? fs ["db_name", "dbName"] with
  | some url, some databaseName =>
    let session ← (Remote.Session.ofSettings url databaseName (Fields.getD fs "options")).mapError
      .fault
    return { session }
  | _, _ => throw (.argument .remoteSettings)

def engineOf (obstacle : String → Option Fault) (config : Value) : Except Error Engine := do
  match first? (← fieldsOf config) ["db_path", "dbPath"] with
  | some path => (Engine.inDirectory path obstacle).mapError .fault
  | none => throw (.argument .storageSettings)

def ofConfig (config : Value) (obstacle : String → Option Fault := fun _ => none)
    : Except Error Choice := do
  let fs ← if config.isTruthy then fieldsOf config else .ok []
  let server ← (first? fs ["mongo"]).mapM serverOf
  let engine ← (first? fs ["json", "lowdb"]).mapM (engineOf obstacle)
  return { server, engine }

end Choice

end DocStore
