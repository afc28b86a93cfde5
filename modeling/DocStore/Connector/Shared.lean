import DocStore.Connector.Basic
import DocStore.Settings

/-!
This module contains the connector that all of a process shares. The settings at its first use
decide which it is. To reset it is to forget it, but an engine that was made stays the engine of the
process.
-/

namespace DocStore

/-- What a process shares. A connector is known by its place among those that were made. -/
structure Shared where
  settings : Settings := .default
  obstacle : String → Option Fault := fun _ => none
  made : List Connector := []
  current : Option Nat := none
  engine : Option Nat := none

namespace Shared

abbrev Sharing := ExceptT Error (StateM Shared)

def liftFault {α : Type} (r : Except Fault α) : Sharing α :=
  match r with
  | .ok a => return a
  | .error kind => throw (.fault kind)

def configure (name : String) (v : Value) : Sharing Unit := do
  let settings ← liftFault ((← get).settings.set name v)
  modify fun s => { s with settings }

def keep (c : Connector) : Sharing Nat := do
  let s ← get
  set { s with made := s.made ++ [c] }
  return s.made.length

def storage : Sharing Nat := do
  match (← get).engine with
  | some i => return i
  | none =>
    let directory ← liftFault (← get).settings.storageDirectory
    let e ← liftFault (Engine.inDirectory (.text directory) (← get).obstacle)
    let i ← keep (.embedded e)
    modify fun s => { s with engine := some i }
    return i

def server : Sharing Nat := do
  let s := (← get).settings
  if !s.serverUrl.isTruthy then throw (.argument .noRemoteAddress)
  let session ← liftFault (Remote.Session.ofSettings s.serverUrl s.databaseName s.serverOptions)
  keep (.remote { session })

/--
The connector of the process, which is made if there is none. When it becomes that of an engine, the
settings have to name a directory even if the engine has its own one.
-/
def connector : Sharing Nat := do
  let s ← get
  match s.current with
  | some i => return i
  | none =>
    if s.settings.useServer.isTruthy then
      let i ← server
      modify fun s => { s with current := some i }
      return i
    else
      let i ← storage
      modify fun s => { s with current := some i }
      let _ ← liftFault s.settings.storageDirectory
      return i

def reset : Sharing Unit :=
  modify fun s =>
    match s.current with
    | none => s
    | some i => { s with made := s.made.modify i Connector.close, current := none }

end Shared

end DocStore
