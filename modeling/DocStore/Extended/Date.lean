import DocStore.Extended.Fault

/-!
This module contains the reader of moments in typed text: a date and a time with an optional
fraction of a second and an optional offset, in several spellings.
-/

namespace DocStore.Extended

open Text

/-- How a part of a date is written: the digits that may begin it, in the order they are tried. -/
abbrev Shape := List (Char → Bool)

def oneOf (s : String) : Char → Bool := fun c => s.toList.contains c

def monthShapes : List Shape :=
  [[oneOf "1", oneOf "012"], [oneOf "0", oneOf "123456789"], [oneOf "123456789"]]

def dayShapes : List Shape :=
  [[oneOf "3", oneOf "01"], [oneOf "12", isDigit], [oneOf "0", oneOf "123456789"],
   [oneOf "123456789"],
   [oneOf " ", oneOf "123456789"]]

def hourShapes : List Shape := [[oneOf "2", oneOf "0123"], [oneOf "01", isDigit], [isDigit]]

def minuteShapes : List Shape := [[oneOf "012345", isDigit], [isDigit]]

def secondShapes : List Shape := [[oneOf "6", oneOf "01"], [oneOf "012345", isDigit], [isDigit]]

def takeShape : Shape → List Char → Option (List Char × List Char)
  | [], s => some ([], s)
  | p :: ps, c :: s => if p c then (takeShape ps s).map fun (t, r) => (c :: t, r) else none
  | _ :: _, [] => none

def digitsNumber (s : List Char) : Nat :=
  s.foldl (fun acc c => match digit? c with | some d => 10 * acc + d | none => acc) 0

def takeNumber (shapes : List Shape) (next : Char → Bool) (s : List Char)
    : Option (Nat × List Char) :=
  shapes.findSome? fun shape =>
    match takeShape shape s with
    | some (t, c :: r) => if next c then some (digitsNumber t, r) else none
    | _ => none

structure DateParts where
  year : Nat
  month : Nat
  day : Nat
  hour : Nat
  minute : Nat
  second : Nat
  rest : List Char

def dateParts? (s : List Char) : Option DateParts := do
  let (year, s) ← takeNumber [[isDigit, isDigit, isDigit, isDigit]] (· = '-') s
  let (month, s) ← takeNumber monthShapes (· = '-') s
  let (day, s) ← takeNumber dayShapes (fun c => c = 'T' ∨ c = 't') s
  let (hour, s) ← takeNumber hourShapes (· = ':') s
  let (minute, s) ← takeNumber minuteShapes (· = ':') s
  let (second, rest) ← secondShapes.findSome? (takeShape · s)
  return ⟨year, month, day, hour, minute, digitsNumber second, rest⟩

def readDateTime (s : List Char) : Except DecodeFault Moment :=
  match dateParts? s with
  | none => .error (.timeText (String.ofList s))
  | some p =>
    if !p.rest.isEmpty then .error (.timeRest (String.ofList p.rest))
    else if p.year = 0 then .error .year
    else
      let date : Civil := ⟨p.year, p.month, p.day⟩
      if !date.isValid then .error .dayOfMonth
      else if 59 < p.second then .error .second
      else
        let seconds : Int := p.hour * 3600 + p.minute * 60 + p.second
        .ok (.utc (date.toDays * Moment.microsPerDay + seconds * Moment.microsPerSecond))

inductive OffsetText where
  | none
  | zulu
  | hoursColonMinutes (negative : Bool) (s : List Char)
  | hoursMinutes (negative : Bool) (hours minutes : List Char)
  | hours (negative : Bool) (s : List Char)

def isSign (c : Char) : Bool := c = '+' || c = '-'

def splitOffset (s : List Char) : Option (List Char × OffsetText) :=
  let fromEnd (k : Nat) : Option Char := s.reverse[k - 1]?
  let body (k : Nat) : List Char := s.take (s.length - k)
  let tail (k : Nat) : List Char := s.drop (s.length - k + 1)
  match fromEnd 1 with
  | none => none
  | some 'Z' => some (body 1, .zulu)
  | some _ =>
    match fromEnd 6 with
    | none => none
    | some c =>
      if isSign c ∧ fromEnd 3 = some ':' then some (body 6, .hoursColonMinutes (c = '-') (tail 6))
      else match fromEnd 5, fromEnd 3 with
        | some c, some d =>
          if isSign c then
            some (body 5, .hoursMinutes (c = '-') ((tail 5).take 2) ((tail 5).drop 2))
          else if isSign d then some (body 3, .hours (d = '-') (tail 3))
          else some (s, .none)
        | _, _ => some (s, .none)

def readInteger (s : List Char) : Except DecodeFault Int :=
  match Numeral.readInteger s with
  | .value n => .ok n
  | .malformed => .error (.integerText 10 (.ofText s))
  | .tooLong count => .error (.integerLength count)

def offsetSeconds : OffsetText → Except DecodeFault Int
  | .none => .ok 0
  | .zulu => .ok 0
  | .hoursColonMinutes negative s =>
    match s.takeWhile (· ≠ ':'), s.dropWhile (· ≠ ':') with
    | h, _ :: m =>
      if m.contains ':' then .error .offsetParts
      else do
        let secs := (← readInteger h) * 3600 + (← readInteger m) * 60
        return if negative then -secs else secs
    | _, [] => .error .offsetParts
  | .hoursMinutes negative h m => do
    let secs := (← readInteger h) * 3600 + (← readInteger m) * 60
    return if negative then -secs else secs
  | .hours negative h => do
    let secs := (← readInteger h) * 3600
    return if negative then -secs else secs

def splitFraction (s : List Char) : List Char × Option (List Char) :=
  match (s.reverse.dropWhile (· ≠ '.')) with
  | [] => (s, none)
  | _ :: before => (before.reverse, some (s.drop before.length))

def fractionMicros (s : List Char) : Except DecodeFault Int :=
  match Numeral.readDouble? s with
  | none => .error (.doubleText (String.ofList s))
  | some x =>
    match (x.scale 1000000).truncate? with
    | some n => .ok n
    | none => .error .integerOfInfinity

def readDate (s : List Char) : Except DecodeFault Moment :=
  match splitOffset s with
  | none => .error (.isoText (String.ofList s))
  | some (body, offset) => do
    let (dateTime, fraction) := splitFraction body
    let micros ← match fraction with
      | some f => fractionMicros f
      | none => .ok 0
    let m ← readDateTime dateTime
    if 2 ^ 31 ≤ micros then .error .microsecondWidth
    else if micros < 0 ∨ 999999 < micros then .error .microsecond
    else
      let secs ← offsetSeconds offset
      let wall := m.wall + micros - secs * Moment.microsPerSecond
      if Moment.inRange wall then .ok (.utc wall) else .error .dateRange

def maxSpanDays : Nat := 999999999

def dateOfMillis (n : Int) : Except DecodeFault Moment :=
  let days := n / 86400000
  if days < -2 ^ 31 ∨ 2 ^ 31 ≤ days then .error (.millisRange .width)
  else if maxSpanDays < days.natAbs then .error (.millisRange (.days days))
  else if Moment.inRange (n * 1000) then .ok (.utc (n * 1000))
  else .error (.millisRange .calendar)

end DocStore.Extended
