import DocStore.Json.Writer
import DocStore.Text.Base64
import DocStore.Value.Written

/-!
This module contains the typed form of values in JSON texts: what JSON has no form for is an object
with a name that begins with a dollar sign.
-/

namespace DocStore.Extended

inductive Layout where
  | line
  | sortedLine
  | indented
  deriving DecidableEq, Repr

inductive EncodeFault where
  | date
  | value (kind : String)
  | key (kind : String)
  | longInteger
  deriving DecidableEq, Repr

def EncodeFault.message : EncodeFault → String
  | .date => "date value out of range"
  | .value kind => s!"Object of type {kind} is not JSON serializable"
  | .key kind => s!"keys must be str, int, float, bool or None, not {kind}"
  | .longInteger =>
    s!"Exceeds the limit ({Numeral.maxDigits} digits) for integer string conversion; "
      ++ "use sys.set_int_max_str_digits() to increase the limit"

def tagged (name : String) (j : Json) : Json := .object [(name.toList, j)]

def ofString (s : String) : Json := .text s.toList

def isTooEarly (m : Moment) : Bool := m.instant < Moment.earliest

def dateText (m : Moment) : List Char :=
  let millis := m.microsecond / 1000
  m.dateText ++ 'T' :: m.timeText
    ++ (if millis = 0 then [] else '.' :: Moment.pad 3 millis)
    ++ (match m.offset.getD 0 with
      | 0 => ['Z']
      | o => Moment.offsetText [] o)

def encodeDate (m : Moment) : Json :=
  tagged "$date" (if 0 ≤ m.instant then .text (dateText m)
    else tagged "$numberLong" (.text (Numeral.text m.millis)))

def parts (layout : Layout) (a b : String × Json) : Json :=
  let first := (a.1.toList, a.2)
  let second := (b.1.toList, b.2)
  .object (if layout = .sortedLine then [second, first] else [first, second])

def encodeRegex (layout : Layout) (source options : String) : Json :=
  tagged "$regularExpression"
    (parts layout ("pattern", ofString source) ("options", ofString options))

def encodeBinary (subtype : Nat) (bs : List UInt8) : Json :=
  tagged "$binary" (parts .line
    ("base64", .text (Text.base64Encode bs)) ("subType", .text (Text.hexDigits 2 subtype)))

def flagLetters (f : Pattern.Flags) : String :=
  (if f.ignoreCase then "i" else "") ++ (if f.multiline then "m" else "") ++
    (if f.dotAll then "s" else "")
    ++ (if f.ascii then "" else "u") ++ (if f.verbose then "x" else "")

def optionBits : List (Char × Nat) :=
  [('i', 2), ('l', 4), ('m', 8), ('s', 16), ('u', 32), ('x', 64)]

def hasBit (bits : Int) (bit : Nat) : Bool := bits / bit % 2 = 1

def bitLetters (bits : Int) : String :=
  String.ofList ((optionBits.filter fun o => hasBit bits o.2).map (·.1))

def encodeDouble (x : Double) : Json :=
  match x with
  | .nan => tagged "$numberDouble" (ofString "NaN")
  | .infinite negative =>
    tagged "$numberDouble" (ofString (if negative then "-Infinity" else "Infinity"))
  | x => .number x

def encodeInteger (n : Int) : Except EncodeFault Json :=
  if Numeral.isLong n then .error .longInteger else .ok (.int n)

/--
The name under which a key is written. Of a key without one the kind is told, on one line with its
package.
-/
def encodeKey (layout : Layout) : Value → Except EncodeFault (List Char)
  | .text s => .ok s.toList
  | .double x => .ok (Json.writeNumber x)
  | .bool b => .ok (if b then "true" else "false").toList
  | .null => .ok "null".toList
  | .int n => if Numeral.isLong n then .error .longInteger else .ok (Numeral.text n)
  | .long n => if Numeral.isLong n then .error .longInteger else .ok (Numeral.text n)
  | k => .error (.key (if layout = .indented then k.kindName else k.nativeKindName))

mutual

def hasEarlyDate : Value → Bool
  | .date m => m.instant < 0 && isTooEarly m
  | .list xs => haveEarlyDate xs
  | .tuple xs => haveEarlyDate xs
  | .set _ xs => haveEarlyDate xs
  | .object fs => fieldsHaveEarlyDate fs
  | _ => false

def haveEarlyDate : List Value → Bool
  | [] => false
  | x :: xs => hasEarlyDate x || haveEarlyDate xs

def fieldsHaveEarlyDate : List (Value × Value) → Bool
  | [] => false
  | (_, v) :: fs => hasEarlyDate v || fieldsHaveEarlyDate fs

end

mutual

def encodeTree (layout : Layout) : Value → Except EncodeFault Json
  | .null => .ok .null
  | .bool b => .ok (.bool b)
  | .int n => encodeInteger n
  | .long n => encodeInteger n
  | .double x => .ok (encodeDouble x)
  | .text s => .ok (ofString s)
  | .date m => .ok (encodeDate m)
  | .id i => .ok (tagged "$oid" (.text i.hex))
  | .list xs => (encodeTrees layout xs).map .array
  | .tuple xs => (encodeTrees layout xs).map .array
  | .set _ xs => (encodeTrees layout xs).map .array
  | .bytes bs => .ok (encodeBinary 0 bs)
  | .binary t bs => .ok (encodeBinary t.toNat bs)
  | .object fs => (encodeFields layout fs).map .object
  | .regex s f => .ok (encodeRegex layout s (flagLetters f))
  | .storedRegex s f _ => .ok (encodeRegex layout s (bitLetters f))
  | .minKey => .ok (tagged "$minKey" (.int 1))
  | .maxKey => .ok (tagged "$maxKey" (.int 1))
  | .timestamp t i =>
    .ok (tagged "$timestamp" (parts layout ("t", .int t) ("i", .int i)))
  | .token t => .error (.value (Value.token t).kindName)

def encodeTrees (layout : Layout) : List Value → Except EncodeFault (List Json)
  | [] => .ok []
  | x :: xs => do return (← encodeTree layout x) :: (← encodeTrees layout xs)

def encodeFields (layout : Layout)
    : List (Value × Value) → Except EncodeFault (List (List Char × Json))
  | [] => .ok []
  | (k, v) :: fs => do
    let name ← encodeKey layout k
    let j ← encodeTree layout v
    return (name, j) :: (← encodeFields layout fs)

end

def encode (layout : Layout) (v : Value) : Except EncodeFault Json :=
  if hasEarlyDate v then .error .date else encodeTree layout v

end DocStore.Extended
