import DocStore.Calendar.Civil
import DocStore.Number.Double
import DocStore.Text.Class

/-!
This module contains moments: a date and a time of day, with an offset from universal time or
without one, in the years 1 to 9999.
-/

namespace DocStore

/--
The reading of a clock, in microseconds since 1970 on that clock, and the clock's offset in minutes.
-/
structure Moment where
  wall : Int
  offset : Option Int
  deriving DecidableEq, Repr, Inhabited

namespace Moment

def microsPerSecond : Int := 1000000

def microsPerDay : Int := 86400000000

def earliest : Int := Civil.toDays ⟨1, 1, 1⟩ * microsPerDay

def latest : Int := Civil.toDays ⟨10000, 1, 1⟩ * microsPerDay - 1

def inRange (wall : Int) : Bool := earliest ≤ wall ∧ wall ≤ latest

def utc (micros : Int) : Moment := ⟨micros, some 0⟩

/-- The microseconds since 1970 in universal time; a clock without an offset is taken to show it. -/
def instant (m : Moment) : Int := m.wall - m.offset.getD 0 * 60000000

def civil (m : Moment) : Civil := .ofDays (m.wall / microsPerDay)

def timeOfDay (m : Moment) : Nat := (m.wall % microsPerDay).toNat

def hour (m : Moment) : Nat := m.timeOfDay / 3600000000
def minute (m : Moment) : Nat := m.timeOfDay / 60000000 % 60
def second (m : Moment) : Nat := m.timeOfDay / 1000000 % 60
def microsecond (m : Moment) : Nat := m.timeOfDay % 1000000

def sameAs (a b : Moment) : Bool :=
  a.offset.isSome = b.offset.isSome ∧ a.instant = b.instant

def order? (a b : Moment) : Option Ordering :=
  if a.offset.isSome = b.offset.isSome then some (compare a.instant b.instant) else none

def truncateToMillis (m : Moment) : Moment :=
  { m with wall := m.wall / 1000 * 1000 }

def millis (m : Moment) : Int := m.instant / 1000

def pad (width n : Nat) : List Char :=
  let digits := Nat.toDigits 10 n
  List.replicate (width - digits.length) '0' ++ digits

def dateText (m : Moment) : List Char :=
  let c := m.civil
  pad 4 c.year.toNat ++ '-' :: pad 2 c.month.toNat ++ '-' :: pad 2 c.day.toNat

def timeText (m : Moment) : List Char :=
  pad 2 m.hour ++ ':' :: pad 2 m.minute ++ ':' :: pad 2 m.second

def offsetText (separator : List Char) (minutes : Int) : List Char :=
  (if minutes < 0 then '-' else '+') :: pad 2 (minutes.natAbs / 60) ++ separator ++
    pad 2 (minutes.natAbs % 60)

def text (m : Moment) : List Char :=
  m.dateText ++ ' ' :: m.timeText
    ++ (if m.microsecond = 0 then [] else '.' :: pad 6 m.microsecond)
    ++ (match m.offset with
      | some o => offsetText [':'] o
      | none => [])

/--
The seconds since 1970 as a number. A clock without an offset is read as universal time, and its
reading is looked up one day back as well, so that the first day of the year 1 has no such number.
-/
def timestamp? (m : Moment) : Option Double :=
  match m.offset with
  | some _ => some (.ofRational m.instant 1000000)
  | none =>
    if m.wall - microsPerDay < earliest then none
    else some ((Double.ofRatio false m.microsecond 1000000).addInt (m.wall / microsPerSecond))

end Moment

end DocStore
