import DocStore.Engine.Basic
import DocStore.Path
import DocStore.Remote.Connector

/-!
This module contains the connectors: one to the embedded engine, one to a server. Both answer the
same calls.
-/

namespace DocStore

inductive Connector where
  | embedded (e : Engine)
  | remote (s : Remote.State)

/-- The engine in a new directory, which is made unless there is an obstacle. -/
def Engine.inDirectory (path : Value) (obstacle : String → Option Fault := fun _ => none)
    : Except Fault Engine :=
  match path with
  | .text p =>
    if p.toList.contains '\x00' then .error .badValue
    else
      let root := String.ofList (Path.tidy p.toList)
      match obstacle root with
      | some kind => .error kind
      | none => .ok (.onEmpty root)
  | _ => .error .wrongKind

namespace Connector

def answer (now : Moment) (c : Call) : Connector → Except Error Answer × Connector
  | .embedded e =>
    let (r, e) := Engine.run now (.call c) e
    (r, .embedded e)
  | .remote s =>
    let (r, s) := Remote.run now c s
    (r, .remote s)

def close : Connector → Connector
  | .embedded e => .embedded e.releaseAll
  | .remote s => .remote (Remote.close s).2

end Connector

end DocStore
