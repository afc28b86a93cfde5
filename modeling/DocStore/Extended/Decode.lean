import DocStore.Extended.Date
import DocStore.Extended.Encode
import DocStore.Identifier
import DocStore.Json.Reader

/-!
This module contains the values of JSON texts in typed form. Objects are read from the inside out.
The first name of an object that marks a type decides how the object is read; an object without such
a name is an object. References, code, decimals and patterns of bytes are left out: there are no
values for them, and their typed forms stay objects, as do the typed forms that hold these.
-/

namespace DocStore.Extended

/-- Reading hands out a new identifier where the typed form of an identifier is empty. -/
abbrev Decoding := ExceptT DecodeFault (StateM IdSupply)

def drawId : Decoding ObjectId := fun s =>
  let (i, s) := s.draw
  (.ok i, s)

def fail {α : Type} (e : DecodeFault) : Decoding α := throw e

inductive Mark where
  | oid
  | ref
  | date
  | regex
  | minKey
  | maxKey
  | binary
  | code
  | uuid
  | undefined
  | numberLong
  | timestamp
  | numberDecimal
  | dbPointer
  | regularExpression
  | symbol
  | numberInt
  | numberDouble
  deriving DecidableEq, Repr

def Mark.all : List Mark :=
  [.oid, .ref, .date, .regex, .minKey, .maxKey, .binary, .code, .uuid, .undefined, .numberLong,
   .timestamp,
   .numberDecimal, .dbPointer, .regularExpression, .symbol, .numberInt, .numberDouble]

def Mark.name : Mark → String
  | .oid => "$oid"
  | .ref => "$ref"
  | .date => "$date"
  | .regex => "$regex"
  | .minKey => "$minKey"
  | .maxKey => "$maxKey"
  | .binary => "$binary"
  | .code => "$code"
  | .uuid => "$uuid"
  | .undefined => "$undefined"
  | .numberLong => "$numberLong"
  | .timestamp => "$timestamp"
  | .numberDecimal => "$numberDecimal"
  | .dbPointer => "$dbPointer"
  | .regularExpression => "$regularExpression"
  | .symbol => "$symbol"
  | .numberInt => "$numberInt"
  | .numberDouble => "$numberDouble"

def Mark.ofName? (s : String) : Option Mark := Mark.all.find? (·.name = s)

def firstMark? (fs : Fields) : Option (Mark × Value) :=
  fs.findSome? fun f => match f.1 with
    | .text s => (Mark.ofName? s).map fun m => (m, f.2)
    | _ => none

def toInteger : Value → Except DecodeFault Int
  | .text s =>
    match Numeral.readInteger s.toList with
    | .value n => .ok n
    | .malformed => .error (.integerText 10 (.text s))
    | .tooLong count => .error (.integerLength count)
  | .bytes bs => ofBytes (.bytes bs) bs
  | .binary t bs => ofBytes (.binary t bs) bs
  | .double .nan => .error .integerOfNaN
  | .double x =>
    match x.truncate? with
    | some n => .ok n
    | none => .error .integerOfInfinity
  | v =>
    match v.integer? with
    | some n => .ok n
    | none => .error (.integerKind v)
where
  ofBytes (v : Value) (bs : List UInt8) : Except DecodeFault Int :=
    match Numeral.readInteger (Numeral.ofBytes bs) with
    | .value n => .ok n
    | .malformed => .error (.integerText 10 v)
    | .tooLong count => .error (.integerLength count)

def onlyField (mark : Mark) (fs : Fields) : Except DecodeFault Unit :=
  if fs.length = 1 then .ok () else .error (.extraFields mark.name (.object fs))

def decodeId : Value → Decoding Value
  | .null => return .id (← drawId)
  | .id i => return .id i
  | .text s =>
    match ObjectId.ofHex? s.toList with
    | some i => return .id i
    | none => fail (.idText s)
  | .bytes bs => ofBytes (.bytes bs) bs
  | .binary t bs => ofBytes (.binary t bs) bs
  | v => fail (.idKind v)
where
  ofBytes (v : Value) (bs : List UInt8) : Decoding Value :=
    match ObjectId.ofBytes? bs with
    | some i => return .id i
    | none => fail (.idKind v)

def decodeDate (v : Value) : Except DecodeFault Value :=
  match v with
  | .text s => (readDate s.toList).map .date
  | v => do return .date (← dateOfMillis (← toInteger v))

def isText : Value → Bool
  | .text _ => true
  | _ => false

def isTextOrNull : Value → Bool
  | .null => true
  | v => isText v

def isBytes : Value → Bool
  | .bytes _ => true
  | .binary .. => true
  | _ => false

def optionsBits : Value → Except DecodeFault Int
  | .text s => .ok (ofLetters s.toList)
  | .list xs => do return ofLetters (← xs.mapM letter)
  | .tuple xs => do return ofLetters (← xs.mapM letter)
  | .object fs => do return ofLetters (← fs.mapM fun f => letter f.1)
  | .bytes _ => .ok 0
  | .binary .. => .ok 0
  | v => .error (.notIterable v)
where
  letter : Value → Except DecodeFault Char
    | .text s => .ok (if s.length = 1 then s.front else ' ')
    | v => if v.isHashable then .ok ' ' else .error (.unhashable v)
  ofLetters (s : List Char) : Int :=
    (optionBits.filter fun o => s.contains o.1).foldl (fun acc o => acc + o.2) 0

def oldOptions (fs : Fields) : Except DecodeFault Int :=
  match Fields.get? fs (.text "$options") with
  | some v => optionsBits v
  | none => .ok 0

def decodeOldRegex (pattern : Value) (fs : Fields) : Except DecodeFault Value :=
  match pattern with
  | .text s => (oldOptions fs).map fun bits => .storedRegex s bits true
  | v => if isBytes v then (oldOptions fs).map fun _ => .object fs else .ok (.object fs)

def part (v : Value) (name : String) : Except DecodeFault Value :=
  match v with
  | .object fs =>
    match Fields.get? fs (.text name) with
    | some w => .ok w
    | none => .error (.noKey name)
  | v => .error (.noParts v)

def partCount : Value → Except DecodeFault Nat
  | .text s => .ok s.length
  | .list xs => .ok xs.length
  | .bytes bs => .ok bs.length
  | .binary _ bs => .ok bs.length
  | .object fs => .ok fs.length
  | v => .error (.noLength v)

def decodeRegex (v : Value) (fs : Fields) : Except DecodeFault Value := do
  onlyField .regularExpression fs
  if (← partCount v) ≠ 2 then throw (.regexParts (.object fs))
  match ← part v "options" with
  | .text options =>
    match ← part v "pattern" with
    | .text source =>
      return .storedRegex source (optionsBits.ofLetters options.toList) true
    | p => if isBytes p then return .object fs else throw (.regexSource p)
  | o => throw (.regexOptions o)

def binaryValue (subtype : Int) (bs : List UInt8) : Except DecodeFault Value :=
  if subtype = 0 then .ok (.bytes bs)
  else if subtype < 0 ∨ 256 ≤ subtype then .error .subtypeRange
  else .ok (.binary (UInt8.ofNat subtype.toNat) bs)

def readBase64 (s : String) : Except DecodeFault (List UInt8) :=
  match Text.base64Decode s.toList with
  | .ok bs => .ok bs
  | .error e => .error (.base64 e)

def readHexadecimal (s : String) : Except DecodeFault Int :=
  match Numeral.readHexadecimal? s.toList with
  | some n => .ok n
  | none => .error (.integerText 16 (.text s))

def decodeOldBinary (data subtype : Value) : Except DecodeFault Value := do
  let digits ← match subtype with
    | .text s => .ok s
    | v => match v.integer? with
      | some n => .ok (String.ofList (if n < 0 then Numeral.text n else Text.hexDigits 2 n.toNat))
      | none => .error .hexadecimalKind
  let first ← readHexadecimal digits
  let number ←
    if 0xffffff80 ≤ first then readHexadecimal (String.ofList (digits.toList.drop 6)) else .ok first
  match data with
  | .text s => binaryValue number (← readBase64 s)
  | _ => throw .notEncodable

def decodeBinary (v : Value) (fs : Fields) : Except DecodeFault Value := do
  match Fields.get? fs (.text "$type") with
  | some subtype => decodeOldBinary v subtype
  | none =>
    let data ← part v "base64"
    let subtype ← part v "subType"
    match data, subtype with
    | .text data, .text subtype =>
      if 2 < subtype.length then
        throw (.binaryParts "subType must be a string at most 2 characters" (.object fs))
      if (← partCount v) ≠ 2 then
        throw (.binaryParts "must include only \"base64\" and \"subType\" components" (.object fs))
      let bs ← readBase64 data
      binaryValue (← readHexadecimal subtype) bs
    | .text _, _ =>
      throw (.binaryParts "subType must be a string at most 2 characters" (.object fs))
    | _, _ => throw (.binaryParts "base64 must be a string" (.object fs))

def removeAll (pattern : List Char) (s : List Char) : List Char :=
  go s.length s
where
  go : Nat → List Char → List Char
    | 0, s => s
    | _ + 1, [] => []
    | n + 1, c :: r =>
      if !pattern.isEmpty && pattern.isPrefixOf (c :: r) then go n ((c :: r).drop pattern.length)
      else c :: go n r

def readUuid (s : String) : Except DecodeFault (List UInt8) := do
  let s := removeAll "uuid:".toList (removeAll "urn:".toList s.toList)
  let isBrace (c : Char) : Bool := c = '\x7b' || c = '\x7d'
  let s := ((s.dropWhile isBrace).reverse.dropWhile isBrace).reverse.filter (· ≠ '-')
  if s.length ≠ 32 then throw .uuidText
  let n ← readHexadecimal (String.ofList s)
  if n < 0 ∨ 2 ^ 128 ≤ n then throw .uuidText
  return (List.range 16).map fun i => UInt8.ofNat (n.toNat / 256 ^ (15 - i) % 256)

def timestampParts? (v : Value) : Option (Value × Value) :=
  match v with
  | .object [f, g] => do return (← Fields.get? [f, g] (.text "t"), ← Fields.get? [f, g] (.text "i"))
  | _ => none

def decodeTimestamp (v : Value) (fs : Fields) : Except DecodeFault Value := do
  onlyField .timestamp fs
  let (time, increment) ← match timestampParts? v with
    | some parts => .ok parts
    | none => .error (.timestampParts (.object fs))
  let t ← match time with
    | .date m => .ok (m.instant / Moment.microsPerSecond)
    | time => match time.integer? with
      | some t => .ok t
      | none => .error (.timestampKind "time" time)
  let i ← match increment.integer? with
    | some i => .ok i
    | none => .error (.timestampKind "inc" increment)
  if t < 0 ∨ 2 ^ 32 ≤ t then throw (.timestampRange "time")
  if i < 0 ∨ 2 ^ 32 ≤ i then throw (.timestampRange "inc")
  return .timestamp t.toNat i.toNat

/--
One of the two ends of the order of keys. Of both, extra fields are refused as those of the lower
end.
-/
def decodeEnd (mark : Mark) (v fieldValue : Value) (fs : Fields) : Except DecodeFault Value := do
  match fieldValue with
  | .int 1 =>
    if fs.length ≠ 1 then throw (.extraFields Mark.minKey.name (.object fs))
    return v
  | _ => throw (.notOne mark.name (.object fs))

def decodeCode (v : Value) (fs : Fields) : Except DecodeFault Value := do
  if fs.any fun f => !(f.1.equals (.text "$code") || f.1.equals (.text "$scope")) then
    throw (.extraFields Mark.code.name (.object fs))
  match v with
  | .text _ =>
    match Fields.getD fs "$scope" with
    | .null => return .object fs
    | .object _ => return .object fs
    | scope => throw (.codePart "scope" "dict" scope)
  | v => throw (.codePart "code" "str" v)

def interpret (mark : Mark) (v : Value) (fs : Fields) : Decoding Value :=
  match mark with
  | .oid => do
    onlyField mark fs
    decodeId v
  | .date => do
    onlyField mark fs
    decodeDate v
  | .regex => decodeOldRegex v fs
  | .minKey => decodeEnd mark .minKey v fs
  | .maxKey => decodeEnd mark .maxKey v fs
  | .binary => decodeBinary v fs
  | .uuid => do
    onlyField mark fs
    match v with
    | .text s => return .binary 4 (← readUuid s)
    | _ => fail (.notText mark.name "a string" (.object fs))
  | .undefined => return .null
  | .numberLong => do
    onlyField mark fs
    return .long (← toInteger v)
  | .timestamp => decodeTimestamp v fs
  | .dbPointer => do
    onlyField mark fs
    fail (.notPointer (.object fs))
  | .regularExpression => decodeRegex v fs
  | .symbol => do
    onlyField mark fs
    return .ofText v.plain
  | .numberInt => do
    onlyField mark fs
    match v with
    | .text _ => return .int (← toInteger v)
    | _ => fail (.notText mark.name "string" (.object fs))
  | .numberDouble => do
    onlyField mark fs
    match v with
    | .text s =>
      match Numeral.readDouble? s.toList with
      | some x => return .double x
      | none => fail (.doubleText s)
    | _ => fail (.notText mark.name "string" (.object fs))
  -- no value stands for a decimal, a reference or code: they are left out, and stay objects
  | .numberDecimal => do
    onlyField mark fs
    match v with
    | .text _ => return .object fs
    | _ => fail (.notText mark.name "string" (.object fs))
  | .ref => return .object fs
  | .code => decodeCode v fs

def areReference (fs : Fields) : Bool :=
  (Fields.get? fs (.text "$id")).isSome && isText (Fields.getD fs "$ref") &&
    isTextOrNull (Fields.getD fs "$db")

/-- Whether fields are a typed form, be it one that is left out. -/
def areTyped (fs : Fields) : Bool :=
  match firstMark? fs with
  | none => false
  | some (mark, v) =>
    match mark with
    | .regex => isText v || isBytes v
    | .ref => areReference fs
    | _ => true

mutual

/-- Whether a value that was read holds a typed form, which is then one that is left out. -/
def holdsTyped : Value → Bool
  | .list xs => haveTyped xs
  | .object fs => areTyped fs || fieldsHaveTyped fs
  | _ => false

def haveTyped : List Value → Bool
  | [] => false
  | x :: xs => holdsTyped x || haveTyped xs

def fieldsHaveTyped : List (Value × Value) → Bool
  | [] => false
  | (_, v) :: fs => holdsTyped v || fieldsHaveTyped fs

end

/--
Whether fields with a mark, which has a value, are built around a typed form that is left out.
-/
def areAround (v : Value) (fs : Fields) : Bool :=
  holdsTyped v || holdsTyped (Fields.getD fs "$type")

def decodeObject (fs : Fields) : Decoding Value :=
  match firstMark? fs with
  | some (mark, v) => if areAround v fs then return .object fs else interpret mark v fs
  | none => return .object fs

mutual

def decode : Json → Decoding Value
  | .null => return .null
  | .bool b => return .bool b
  | .int n => return .int n
  | .number x => return .double x
  | .text s => return .ofText s
  | .array xs => return .list (← decodeItems xs)
  | .object ms => do decodeObject (Fields.ofList (← decodeMembers ms))

def decodeItems : List Json → Decoding (List Value)
  | [] => return []
  | x :: xs => return (← decode x) :: (← decodeItems xs)

def decodeMembers : List (List Char × Json) → Decoding Fields
  | [] => return []
  | (k, v) :: ms => return (.ofText k, ← decode v) :: (← decodeMembers ms)

end

inductive LoadFault where
  | json (refusal : Json.Refusal)
  | value (fault : DecodeFault)

/--
The value of a typed text. The trees before the place where a text is refused are read all the same,
and a fault in one of them comes first.
-/
def load (s : List Char) : ExceptT LoadFault (StateM IdSupply) Value := fun ids =>
  match Json.read s with
  | .ok j =>
    match decode j ids with
    | (.ok v, ids) => (.ok v, ids)
    | (.error e, ids) => (.error (.value e), ids)
  | .error refusal =>
    match decodeItems refusal.complete ids with
    | (.ok _, ids) => (.error (.json refusal), ids)
    | (.error e, ids) => (.error (.value e), ids)

end DocStore.Extended
