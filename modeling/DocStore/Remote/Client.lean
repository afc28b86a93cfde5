import DocStore.Error
import DocStore.Order.Sort

/-!
This module contains what a connector asks of the client of a server, and what the server replies.
-/

namespace DocStore.Remote

structure Change where
  set : Fields
  setOnInsert : Option Fields := none

inductive Command where
  | lookUp (query : Fields)
  | insertOne (payload : Fields)
  | insertMany (payloads : List Fields)
  | findOne (query : Fields) (sort : Option (List SortKey))
  | find (query : Fields)
  | countDocuments (query : Fields)
  | updateOne (query : Fields) (change : Change) (upsert : Bool)
  | updateMany (query : Fields) (change : Change)
  | deleteOne (query : Fields)
  | deleteMany (query : Fields)

inductive ClientCall where
  | open (client : Nat) (url : Value) (options : Fields)
  | ping (client : Nat)
  | select (client : Nat) (database : Value)
  | close (client : Nat)
  | command (database collection : Value) (c : Command)
  | skip (n : Value)
  | limit (n : Value)
  | sort (keys : List SortKey)

structure Result where
  matched : Value := .int 0
  modified : Value := .int 0
  upsertedId : Value := .null
  deleted : Value := .int 0
  insertedId : Option Value := none
  insertedIds : Option Value := none
  document : Value := .null
  documents : Value := .list []
  count : Value := .int 0

inductive Reply where
  | result (r : Result)
  | failure (f : RemoteFault)

/--
A server: the replies to the commands to come, why it lets no client in, and what is wrong with a
name.
-/
structure Server where
  replies : List Reply := []
  openFailure : Option RemoteFault := none
  pingFailure : Option RemoteFault := none
  databaseFailure : Value → Option RemoteFault := fun _ => none
  collectionFailure : Value → Option RemoteFault := fun _ => none

end DocStore.Remote
