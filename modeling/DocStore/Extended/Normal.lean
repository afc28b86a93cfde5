import DocStore.Error
import DocStore.Extended.Decode

/-!
This module contains the normal form of documents: the form that they have after they are written
and read again.
-/

namespace DocStore

abbrev Drawing := ExceptT Error (StateM IdSupply)

namespace Extended

def normalForm (doc : Value) : Drawing Value := fun ids =>
  match encode .line doc with
  | .error e => (.error (.argument (.unstorable e)), ids)
  | .ok j =>
    match decode j ids with
    | (.ok v, ids) => (.ok v, ids)
    | (.error e, ids) => (.error (.ofDecodeFault e), ids)

end Extended

end DocStore
