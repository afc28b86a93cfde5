import DocStore.Error
import DocStore.Order.Compare
import DocStore.Order.StableSort
import DocStore.Query.Field
import DocStore.Value.Sequence

/-!
This module contains the order of documents by several fields.
-/

namespace DocStore

inductive Direction where
  | ascending
  | descending
  deriving DecidableEq, Repr

namespace Direction

def sign : Direction → Int
  | .ascending => 1
  | .descending => -1

def ofValue? (v : Value) : Option Direction :=
  match v with
  | .bool _ => none
  | .text s =>
    let word := s.toLower
    if word = "asc" ∨ word = "ascending" then some .ascending
    else if word = "desc" ∨ word = "descending" then some .descending
    else none
  | v =>
    if v.equals (.int 1) then some .ascending
    else if v.equals (.int (-1)) then some .descending
    else none

end Direction

structure SortKey where
  field : Value
  direction : Direction

namespace SortKey

def ofPair (field direction : Value) : Except Error SortKey :=
  if !direction.isHashable then .error (.fault .wrongKind)
  else match Direction.ofValue? direction with
    | some d => .ok ⟨field, d⟩
    | none => .error (.argument (.direction direction field))

def ofValue (v : Value) : Except Error (List SortKey) :=
  match v with
  | .object fs => fs.mapM fun f => ofPair f.1 f.2
  | v => do
    let xs ← v.items.mapError .fault
    xs.mapM fun x => do
      let (field, direction) ← x.pair.mapError .fault
      ofPair field direction

def compareDocuments (left right : Value) : List SortKey → Except Fault Int
  | [] => .ok 0
  | k :: ks => do
    let result ← compareValues (← getField left k.field) (← getField right k.field)
    if result ≠ 0 then return result * k.direction.sign
    else compareDocuments left right ks

end SortKey

def sortDocuments (docs : List Value) (keys : List SortKey) : Except Fault (List Value) :=
  match keys with
  | [] => .ok docs
  | keys =>
    StableSort.sort (fun a b => return decide ((← SortKey.compareDocuments a b keys) < 0)) docs

end DocStore
