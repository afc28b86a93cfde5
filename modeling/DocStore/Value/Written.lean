import DocStore.Number.Numeral
import DocStore.Text.Quoted
import DocStore.Value.Equal

/-!
This module contains the written forms of values: the form that shows the kind, and the plain form
of a text, a moment or an identifier, which does not.
-/

namespace DocStore

namespace Pattern.Flags

def names (f : Flags) : List String :=
  (if f.template then ["re.TEMPLATE"] else []) ++ (if f.ignoreCase then ["re.IGNORECASE"] else [])
    ++ (if f.multiline then ["re.MULTILINE"] else []) ++ (if f.dotAll then ["re.DOTALL"] else [])
    ++ (if f.verbose then ["re.VERBOSE"] else []) ++ (if f.ascii then ["re.ASCII"] else [])

end Pattern.Flags

namespace Moment

def writtenOffset (minutes : Int) : String :=
  if minutes = 0 then "datetime.timezone.utc"
  else
    let days := minutes / 1440
    let seconds := minutes % 1440 * 60
    let parts := (if days = 0 then [] else [s!"days={days}"])
      ++ (if seconds = 0 then [] else [s!"seconds={seconds}"])
    "datetime.timezone(datetime.timedelta(" ++ ", ".intercalate parts ++ "))"

/-- A moment as an expression, without seconds and parts of seconds that are zero. -/
def written (m : Moment) : String :=
  let c := m.civil
  let parts :=
    [toString c.year, toString c.month, toString c.day, toString m.hour, toString m.minute]
    ++ (if m.second = 0 ∧ m.microsecond = 0 then [] else [toString m.second])
    ++ (if m.microsecond = 0 then [] else [toString m.microsecond])
    ++ (match m.offset with
      | some o => ["tzinfo=" ++ writtenOffset o]
      | none => [])
  "datetime.datetime(" ++ ", ".intercalate parts ++ ")"

end Moment

namespace Value

def commas : List (List Char) → List Char
  | [] => []
  | [x] => x
  | x :: xs => x ++ ',' :: ' ' :: commas xs

def bitNames : List (Nat × String) :=
  [(2, "re.IGNORECASE"), (4, "re.LOCALE"), (32, "re.UNICODE"), (8, "re.MULTILINE"),
   (16, "re.DOTALL"),
   (64, "re.VERBOSE")]

def writtenBits (bits : Int) : List Char :=
  match bitNames.filter fun b => bits / b.1 % 2 = 1 with
  | [] => ['0']
  | bs => ("|".intercalate (bs.map (·.2))).toList

mutual

def written : Value → List Char
  | .null => "None".toList
  | .bool b => (if b then "True" else "False").toList
  | .int n => Numeral.text n
  | .long n => Numeral.text n
  | .double x => x.text
  | .text s => Text.quote s.toList
  | .date m => m.written.toList
  | .id i => "ObjectId('".toList ++ i.hex ++ "')".toList
  | .list xs => '[' :: commas (writtenAll xs) ++ [']']
  | .tuple [x] => '(' :: x.written ++ [',', ')']
  | .tuple xs => '(' :: commas (writtenAll xs) ++ [')']
  | .set false [] => "set()".toList
  | .set true [] => "frozenset()".toList
  | .set false xs => '\x7b' :: commas (writtenAll xs) ++ ['\x7d']
  | .set true xs => "frozenset(\x7b".toList ++ commas (writtenAll xs) ++ ['\x7d', ')']
  | .bytes bs => Text.quoteBytes bs
  | .binary 8 _ => "<Binary(REDACTED, 8)>".toList
  | .binary t bs =>
    "Binary(".toList ++ Text.quoteBytes bs ++ ", ".toList ++ Nat.toDigits 10 t.toNat ++ [')']
  | .object fs => '\x7b' :: commas (writtenFields fs) ++ ['\x7d']
  | .regex s f =>
    "re.compile(".toList ++ (Text.quote s.toList).take 200
      ++ (if f.names.isEmpty then [] else ", ".toList ++ ("|".intercalate f.names).toList) ++ [')']
  | .storedRegex s bits named =>
    "Regex(".toList ++ Text.quote s.toList ++ ", ".toList
      ++ (if named then writtenBits bits else Numeral.text bits) ++ [')']
  | .minKey => "MinKey()".toList
  | .maxKey => "MaxKey()".toList
  | .timestamp t i =>
    "Timestamp(".toList ++ Nat.toDigits 10 t ++ ", ".toList ++ Nat.toDigits 10 i ++ [')']
  | .token _ => "<opaque>".toList

def writtenAll : List Value → List (List Char)
  | [] => []
  | x :: xs => x.written :: writtenAll xs

def writtenFields : List (Value × Value) → List (List Char)
  | [] => []
  | (k, v) :: fs => (k.written ++ ':' :: ' ' :: v.written) :: writtenFields fs

def isLong : Value → Bool
  | .int n => Numeral.isLong n
  | .long n => Numeral.isLong n
  | .list xs => areLong xs
  | .tuple xs => areLong xs
  | .set _ xs => areLong xs
  | .object fs => haveLong fs
  | _ => false

def areLong : List Value → Bool
  | [] => false
  | x :: xs => x.isLong || areLong xs

def haveLong : List (Value × Value) → Bool
  | [] => false
  | (k, v) :: fs => k.isLong || v.isLong || haveLong fs

end

def plain : Value → List Char
  | .text s => s.toList
  | .date m => m.text
  | .id i => i.hex
  | .binary _ bs => Text.quoteBytes bs
  | v => v.written

def written? (v : Value) : Option (List Char) := if v.isLong then none else some v.written

def plain? (v : Value) : Option (List Char) := if v.isLong then none else some v.plain

end Value

end DocStore
