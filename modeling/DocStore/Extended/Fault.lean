import DocStore.Fault
import DocStore.Number.Numeral
import DocStore.Text.Base64
import DocStore.Value.Written

/-!
This module contains the reasons why an object in typed form has no value.
-/

namespace DocStore.Extended

inductive MillisFault where
  | width
  | days (count : Int)
  | calendar
  deriving DecidableEq, Repr

inductive DecodeFault where
  | extraFields (name : String) (doc : Value)
  | notText (name phrase : String) (doc : Value)
  | notOne (name : String) (doc : Value)
  | notPointer (doc : Value)
  | codePart (part kind : String) (v : Value)
  | integerKind (v : Value)
  | integerText (base : Nat) (v : Value)
  | integerLength (count : Nat)
  | integerOfNaN
  | integerOfInfinity
  | hexadecimalKind
  | doubleText (s : String)
  | idText (s : String)
  | idKind (v : Value)
  | isoText (s : String)
  | timeText (s : String)
  | timeRest (s : String)
  | dayOfMonth
  | year
  | second
  | microsecond
  | microsecondWidth
  | offsetParts
  | dateRange
  | millisRange (cause : MillisFault)
  | noParts (v : Value)
  | noKey (name : String)
  | noLength (v : Value)
  | notEncodable
  | binaryParts (phrase : String) (doc : Value)
  | base64 (fault : Text.Base64Fault)
  | subtypeRange
  | uuidText
  | regexParts (doc : Value)
  | regexOptions (v : Value)
  | regexSource (v : Value)
  | notIterable (v : Value)
  | unhashable (v : Value)
  | timestampParts (doc : Value)
  | timestampKind (part : String) (v : Value)
  | timestampRange (part : String)

namespace MillisFault

def message : MillisFault → String
  | .width => "Python int too large to convert to C int"
  | .days count => s!"days={count}; must have magnitude <= 999999999"
  | .calendar => "date value out of range"

end MillisFault

structure Address where
  scheme : String
  host : List String
  path : List String
  part : String

def Address.text (a : Address) : String :=
  a.scheme ++ "://" ++ ".".intercalate a.host ++ "/" ++ "/".intercalate a.path ++ "/#" ++ a.part

def manual : Address where
  scheme := "https"
  host := ["www", "mongodb", "com"]
  path :=
    ["docs", "languages", "python", "pymongo-driver", "current", "data-formats", "dates-and-times"]
  part := "handling-out-of-range-datetimes"

def millisAdvice : String :=
  "(Consider Using CodecOptions(datetime_conversion=DATETIME_AUTO) or "
    ++ "MongoClient(datetime_conversion='DATETIME_AUTO')). See: "
    ++ manual.text

namespace DecodeFault

def fault? : DecodeFault → Option Fault
  | .idText _ => none
  | .integerText .. => some .badValue
  | .integerLength _ => some .badValue
  | .integerOfNaN => some .badValue
  | .integerOfInfinity => some .outOfRange
  | .doubleText _ => some .badValue
  | .isoText _ => some .badValue
  | .timeText _ => some .badValue
  | .timeRest _ => some .badValue
  | .dayOfMonth => some .badValue
  | .year => some .badValue
  | .second => some .badValue
  | .microsecond => some .badValue
  | .microsecondWidth => some .outOfRange
  | .offsetParts => some .badValue
  | .dateRange => some .outOfRange
  | .millisRange _ => some .badDate
  | .noKey _ => some .noKey
  | .notEncodable => some .noOperation
  | .base64 _ => some .badBase64
  | .subtypeRange => some .badValue
  | .uuidText => some .badValue
  | .timestampRange _ => some .badValue
  | _ => some .wrongKind

def shown (v : Value) : String := String.ofList v.written

def message : DecodeFault → String
  | .extraFields name doc => s!"Bad {name}, extra field(s): " ++ shown doc
  | .notText name phrase doc => s!"{name} must be {phrase}: " ++ shown doc
  | .notOne "$maxKey" doc =>
    shown (.tuple [.text "$maxKey value must be 1: %s", .tuple [doc]])
  | .notOne name doc => s!"{name} value must be 1: " ++ shown doc
  | .notPointer doc => "Bad $dbPointer, expected a DBRef: " ++ shown doc
  | .codePart part kind v =>
    s!"{part} must be an instance of {kind}, not <class '{v.qualifiedKindName}'>"
  | .integerKind v =>
    "int() argument must be a string, a bytes-like object or a real number, not "
      ++ s!"'{v.nativeKindName}'"
  | .integerText base v =>
    s!"invalid literal for int() with base {base}: " ++ String.ofList (v.written.take 200)
  | .integerLength count =>
    s!"Exceeds the limit ({Numeral.maxDigits} digits) for integer string conversion: "
      ++ s!"value has {count} digits; use sys.set_int_max_str_digits() to increase the limit"
  | .integerOfNaN => "cannot convert float NaN to integer"
  | .integerOfInfinity => "cannot convert float infinity to integer"
  | .hexadecimalKind => "int() can't convert non-string with explicit base"
  | .doubleText s => "could not convert string to float: " ++ shown (.text s)
  | .idText s =>
    shown (.text s) ++
      " is not a valid ObjectId, it must be a 12-byte input or a 24-character hex string"
  | .idKind v =>
    s!"id must be an instance of (bytes, str, ObjectId), not <class '{v.qualifiedKindName}'>"
  | .isoText s => s!"time data " ++ shown (.text s) ++ " does not match ISO-8601 datetime format"
  | .timeText s => s!"time data " ++ shown (.text s) ++ " does not match format '%Y-%m-%dT%H:%M:%S'"
  | .timeRest s => "unconverted data remains: " ++ s
  | .dayOfMonth => "day is out of range for month"
  | .year => "year 0 is out of range"
  | .second => "second must be in 0..59"
  | .microsecond => "microsecond must be in 0..999999"
  | .microsecondWidth => "signed integer is greater than maximum"
  | .offsetParts => "too many values to unpack (expected 2)"
  | .dateRange => "date value out of range"
  | .millisRange cause => cause.message ++ " " ++ millisAdvice
  | .noParts v =>
    match v with
    | .text _ => "string indices must be integers, not 'str'"
    | .list _ => "list indices must be integers or slices, not str"
    | .bytes _ => "byte indices must be integers or slices, not str"
    | .binary .. => "byte indices must be integers or slices, not str"
    | v => s!"'{v.nativeKindName}' object is not subscriptable"
  | .noKey name => shown (.text name)
  | .noLength v => s!"object of type '{v.nativeKindName}' has no len()"
  | .notEncodable => "value has no encoding"
  | .binaryParts phrase doc => s!"$binary {phrase}: " ++ shown doc
  | .base64 (.leftOver groups) =>
    s!"Invalid base64-encoded string: number of data characters ({groups * 4 + 1}) "
      ++ "cannot be 1 more than a multiple of 4"
  | .base64 .padding => "Incorrect padding"
  | .subtypeRange => "subtype must be contained in [0, 256)"
  | .uuidText => "badly formed hexadecimal UUID string"
  | .regexParts doc =>
    "Bad $regularExpression must include only \"pattern and \"options\" components: " ++ shown doc
  | .regexOptions v =>
    "Bad $regularExpression options, options must be string, was type "
      ++ s!"<class '{v.qualifiedKindName}'>"
  | .regexSource v => s!"pattern must be a string, not <class '{v.qualifiedKindName}'>"
  | .notIterable v => s!"'{v.nativeKindName}' object is not iterable"
  | .unhashable v => s!"unhashable type: '{v.nativeKindName}'"
  | .timestampParts doc =>
    "$timestamp value must be a document with \"t\" and \"i\" components: " ++ shown doc
  | .timestampKind part v =>
    s!"{part} must be an instance of int, not <class '{v.qualifiedKindName}'>"
  | .timestampRange part => s!"{part} must be contained in [0, 2**32)"

end DecodeFault

end DocStore.Extended
