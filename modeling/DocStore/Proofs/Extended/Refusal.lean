import DocStore.Engine.File
import DocStore.Proofs.Extended.Decode

/-!
This module contains the faults of typed text that the reader of a file does not tell as faults of
the file, and the objects that have them.
-/

namespace DocStore

namespace Extended

open Work

def DecodeFault.escapes (e : DecodeFault) : Bool :=
  match e.fault? with
  | some .wrongKind => false
  | some .badValue => false
  | some .badDate => false
  | some .badBase64 => false
  | _ => true

def microsOf : Option (List Char) → Except DecodeFault Int
  | some f => fractionMicros f
  | none => .ok 0

inductive MomentEscapes (s : List Char) : DecodeFault → Prop where
  | fraction {body offset dateTime f x} (split : splitOffset s = some (body, offset))
      (point : splitFraction body = (dateTime, some f)) (number : Numeral.readDouble? f = some x)
      (huge : (x.scale 1000000).truncate? = none) : MomentEscapes s .integerOfInfinity
  | micros {body offset dateTime fraction micros m} (split : splitOffset s = some (body, offset))
      (point : splitFraction body = (dateTime, fraction)) (number : microsOf fraction = .ok micros)
      (date : readDateTime dateTime = .ok m) (wide : 2 ^ 31 ≤ micros) :
      MomentEscapes s .microsecondWidth
  | offset {body offset dateTime fraction micros m seconds}
      (split : splitOffset s = some (body, offset))
      (point : splitFraction body = (dateTime, fraction)) (number : microsOf fraction = .ok micros)
      (date : readDateTime dateTime = .ok m) (small : 0 ≤ micros ∧ micros ≤ 999999)
      (moved : offsetSeconds offset = .ok seconds)
      (range : Moment.inRange (m.wall + micros - seconds * Moment.microsPerSecond) = false) :
      MomentEscapes s .dateRange

def oldDigits (subtype : Value) : Except DecodeFault String :=
  match subtype with
  | .text s => .ok s
  | v =>
    match v.integer? with
    | some n => .ok (String.ofList (if n < 0 then Numeral.text n else Text.hexDigits 2 n.toNat))
    | none => .error .hexadecimalKind

def oldSubtype (digits : String) : Except DecodeFault Int := do
  let first ← readHexadecimal digits
  if 0xffffff80 ≤ first then readHexadecimal (String.ofList (digits.toList.drop 6)) else .ok first

/-- The objects whose faults escape, with the faults. -/
inductive Escapes (fs : Fields) : DecodeFault → Prop where
  | id {s} (first : firstMark? fs = some (.oid, .text s)) (only : fs.length = 1)
      (digits : ObjectId.ofHex? s.toList = none) : Escapes fs (.idText s)
  | infinite {mark negative} (first : firstMark? fs = some (mark, .double (.infinite negative)))
      (integer : mark = .date ∨ mark = .numberLong) (only : fs.length = 1) :
      Escapes fs .integerOfInfinity
  | moment {s e} (first : firstMark? fs = some (.date, .text s)) (only : fs.length = 1)
      (text : MomentEscapes s.toList e) : Escapes fs e
  | noData {parts} (first : firstMark? fs = some (.binary, .object parts))
      (newer : Fields.get? fs (.text "$type") = none)
      (data : Fields.get? parts (.text "base64") = none) : Escapes fs (.noKey "base64")
  | noSubtype {parts data} (first : firstMark? fs = some (.binary, .object parts))
      (newer : Fields.get? fs (.text "$type") = none)
      (data : Fields.get? parts (.text "base64") = some data)
      (subtype : Fields.get? parts (.text "subType") = none) : Escapes fs (.noKey "subType")
  | noText {data subtype digits n} (first : firstMark? fs = some (.binary, data))
      (older : Fields.get? fs (.text "$type") = some subtype)
      (written : oldDigits subtype = .ok digits)
      (number : oldSubtype digits = .ok n) (data : ∀ s, data ≠ .text s) : Escapes fs .notEncodable
  | noOptions {parts} (first : firstMark? fs = some (.regularExpression, .object parts))
      (only : fs.length = 1)
      (two : parts.length = 2) (options : Fields.get? parts (.text "options") = none) :
      Escapes fs (.noKey "options")
  | noPattern {parts options} (first : firstMark? fs = some (.regularExpression, .object parts))
      (only : fs.length = 1)
      (two : parts.length = 2)
      (options : Fields.get? parts (.text "options") = some (.text options))
      (pattern : Fields.get? parts (.text "pattern") = none) : Escapes fs (.noKey "pattern")

section

variable {fs : Fields} {v : Value}

theorem Blames.calm {α : Type} {x : Except DecodeFault α} {P : DecodeFault → Prop}
    (h : Blames x fun e => e.escapes = false) : Blames x fun e => e.escapes = true → P e := by
  intro e he hescapes
  rw [h e he] at hescapes
  cases hescapes

theorem Escapes.escapes {e : DecodeFault} (h : Escapes fs e) : e.escapes = true := by
  cases h with
  | moment _ _ text => cases text <;> rfl
  | _ => rfl

end

end Extended

end DocStore
