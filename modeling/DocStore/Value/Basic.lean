import DocStore.Calendar.Moment
import DocStore.Number.Double
import DocStore.Pattern.Flags
import DocStore.Text.Hex

/-!
This module contains the values that documents and queries are made of.
-/

namespace DocStore

structure ObjectId where
  bits : Fin (2 ^ 96)
  deriving DecidableEq, Repr, Inhabited

namespace ObjectId

def hex (i : ObjectId) : List Char := Text.hexDigits 24 i.bits

def ofHex? (s : List Char) : Option ObjectId :=
  -- all 24 characters have to be digits: blanks among them are not skipped
  if s.length = 24 then
    (Text.hexNumber? s).bind fun n => if h : n < 2 ^ 96 then some ⟨⟨n, h⟩⟩ else none
  else none

def ofBytes? (bs : List UInt8) : Option ObjectId :=
  if bs.length = 12 then
    let n := bs.foldl (fun acc b => 256 * acc + b.toNat) 0
    if h : n < 2 ^ 96 then some ⟨⟨n, h⟩⟩ else none
  else none

def next (i : ObjectId) : ObjectId :=
  ⟨⟨(i.bits + 1) % 2 ^ 96, Nat.mod_lt _ (by decide)⟩⟩

end ObjectId

inductive Value where
  | null
  | bool (b : Bool)
  | int (n : Int)
  /-- An integer that is marked as one of 64 bits. It behaves as the integer. -/
  | long (n : Int)
  | double (x : Double)
  | text (s : String)
  | date (m : Moment)
  | id (i : ObjectId)
  | list (items : List Value)
  | tuple (items : List Value)
  /-- A set without repetition: integers ascend, other members stand in order of arrival. -/
  | set (frozen : Bool) (members : List Value)
  | bytes (bs : List UInt8)
  | binary (subtype : UInt8) (bs : List UInt8)
  | object (fields : List (Value × Value))
  | regex (source : String) (flags : Pattern.Flags)
  | storedRegex (source : String) (bits : Int) (named : Bool)
  | minKey
  | maxKey
  | timestamp (time increment : Nat)
  /-- A value that is equal to itself only. -/
  | token (tag : Nat)
  deriving Inhabited

abbrev Fields := List (Value × Value)

namespace Value

def ofText (s : List Char) : Value := .text (String.ofList s)

def ofFields (fields : List (String × Value)) : Value :=
  .object (fields.map fun f => (.text f.1, f.2))

def integer? : Value → Option Int
  | .bool b => some b.toInt
  | .int n => some n
  | .long n => some n
  | _ => none

def isTruthy : Value → Bool
  | .null => false
  | .bool b => b
  | .int n => n ≠ 0
  | .long n => n ≠ 0
  | .double (.finite _ r) => r ≠ 0
  | .text s => s ≠ ""
  | .list xs => !xs.isEmpty
  | .tuple xs => !xs.isEmpty
  | .set _ xs => !xs.isEmpty
  | .bytes bs => !bs.isEmpty
  | .binary _ bs => !bs.isEmpty
  | .object fs => !fs.isEmpty
  | _ => true

mutual

def isHashable : Value → Bool
  | .list _ => false
  | .object _ => false
  | .set frozen _ => frozen
  | .storedRegex .. => false
  | .tuple xs => areHashable xs
  | _ => true

def areHashable : List Value → Bool
  | [] => true
  | x :: xs => x.isHashable && areHashable xs

end

def kindName : Value → String
  | .null => "NoneType"
  | .bool _ => "bool"
  | .int _ => "int"
  | .long _ => "Int64"
  | .double _ => "float"
  | .text _ => "str"
  | .date _ => "datetime"
  | .id _ => "ObjectId"
  | .list _ => "list"
  | .tuple _ => "tuple"
  | .set frozen _ => if frozen then "frozenset" else "set"
  | .bytes _ => "bytes"
  | .binary .. => "Binary"
  | .object _ => "dict"
  | .regex .. => "Pattern"
  | .storedRegex .. => "Regex"
  | .minKey => "MinKey"
  | .maxKey => "MaxKey"
  | .timestamp .. => "Timestamp"
  | .token _ => "Opaque"

def nativeKindName (v : Value) : String :=
  match v with
  | .date _ => "datetime.datetime"
  | .regex .. => "re.Pattern"
  | v => v.kindName

def qualifiedKindName (v : Value) : String :=
  match v with
  | .long _ => "bson.int64.Int64"
  | .id _ => "bson.objectid.ObjectId"
  | .binary .. => "bson.binary.Binary"
  | .storedRegex .. => "bson.regex.Regex"
  | .minKey => "bson.min_key.MinKey"
  | .maxKey => "bson.max_key.MaxKey"
  | .timestamp .. => "bson.timestamp.Timestamp"
  | v => v.nativeKindName

end Value

end DocStore
