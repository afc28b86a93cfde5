import DocStore.Document
import DocStore.Remote.Client

/-!
This module contains the session of a connector with a server: it is opened on first use and can be
opened anew with other settings.
-/

namespace DocStore.Remote

structure Session where
  url : Value
  databaseName : Value
  options : Fields
  client : Option Nat := none
  database : Option Value := none

def Session.ofSettings (url databaseName options : Value) : Except Fault Session := do
  let options ← if options.isTruthy then Document.fieldsOf options else .ok []
  return { url, databaseName, options }

structure State where
  session : Session
  server : Server := {}
  clients : Nat := 0
  log : List ClientCall := []

abbrev Exchange := ExceptT Error (StateM State)

def record (c : ClientCall) : Exchange Unit := modify fun s => { s with log := s.log ++ [c] }

def setSession (f : Session → Session) : Exchange Unit :=
  modify fun s => { s with session := f s.session }

def liftFault {α : Type} (r : Except Fault α) : Exchange α :=
  match r with
  | .ok a => return a
  | .error kind => throw (.fault kind)

def check (f : Option RemoteFault) : Exchange Unit :=
  match f with
  | some f => throw (.remote f)
  | none => return

def checkOptions (options : Fields) : Exchange Unit :=
  if options.all fun f => match f.1 with | .text _ => true | _ => false then return
  else throw (.fault .wrongKind)

def close : Exchange Unit := do
  match (← get).session.client with
  | none => return
  | some n =>
    record (.close n)
    setSession fun s => { s with client := none, database := none }

/--
Open a client in the place of the one that is open. A client that does not answer is not kept, but
one whose database cannot be selected is.
-/
def connect : Exchange Unit := do
  close
  let s := (← get).session
  checkOptions s.options
  let n := (← get).clients
  modify fun s => { s with clients := n + 1 }
  record (.open n s.url s.options)
  check (← get).server.openFailure
  record (.ping n)
  check (← get).server.pingFailure
  setSession fun s => { s with client := some n }
  record (.select n s.databaseName)
  check ((← get).server.databaseFailure s.databaseName)
  setSession fun s => { s with database := some s.databaseName }

def reconnect (url databaseName options : Value) : Exchange Unit := do
  match url with
  | .null => pure ()
  | url => setSession fun s => { s with url }
  match databaseName with
  | .null => pure ()
  | databaseName => setSession fun s => { s with databaseName }
  match options with
  | .null => pure ()
  | options =>
    let options ← liftFault (Document.fieldsOf options)
    setSession fun s => { s with options }
  connect

/-- The database, with a connection if there is none yet. A name selects another database. -/
def database (name : Value) : Exchange Value := do
  if (← get).session.client.isNone then connect
  let s := (← get).session
  if name.isTruthy && !name.equals s.databaseName then
    record (.select (s.client.getD 0) name)
    check ((← get).server.databaseFailure name)
    setSession fun s => { s with database := some name, databaseName := name }
  return (← get).session.database.getD .null

/-- The database for a collection. A client has none if it could not be selected. -/
def databaseFor (collection : Value) : Exchange Value := do
  let db ← database .null
  if (← get).session.database.isNone then throw (.fault .wrongKind)
  check ((← get).server.collectionFailure collection)
  return db

def send (database collection : Value) (c : Command) : Exchange Result := do
  record (.command database collection c)
  match (← get).server.replies with
  | [] => return {}
  | reply :: replies =>
    modify fun s => { s with server := { s.server with replies } }
    match reply with
    | .result r => return r
    | .failure f => throw (.remote f)

end DocStore.Remote
