/-!
This module contains the proleptic Gregorian calendar: civil dates and the days since 1970-01-01.
-/

namespace DocStore

structure Civil where
  year : Int
  month : Int
  day : Int
  deriving DecidableEq, Repr, Inhabited

namespace Civil

/--
The civil date of a day. Years are counted from March, in cycles of 400 years, so that the leap day
is the last of its year.
-/
def ofDays (days : Int) : Civil :=
  let shifted := days + 719468
  let cycle := shifted / 146097
  let dayOfCycle := shifted % 146097
  let yearOfCycle :=
    (dayOfCycle - dayOfCycle / 1460 + dayOfCycle / 36524 - dayOfCycle / 146096) / 365
  let dayOfYear := dayOfCycle - (365 * yearOfCycle + yearOfCycle / 4 - yearOfCycle / 100)
  let monthFromMarch := (5 * dayOfYear + 2) / 153
  let day := dayOfYear - (153 * monthFromMarch + 2) / 5 + 1
  let month := if monthFromMarch < 10 then monthFromMarch + 3 else monthFromMarch - 9
  ⟨yearOfCycle + cycle * 400 + (if month ≤ 2 then 1 else 0), month, day⟩

def toDays (c : Civil) : Int :=
  let year := if c.month ≤ 2 then c.year - 1 else c.year
  let cycle := year / 400
  let yearOfCycle := year % 400
  let monthFromMarch := if c.month ≤ 2 then c.month + 9 else c.month - 3
  let dayOfYear := (153 * monthFromMarch + 2) / 5 + c.day - 1
  let dayOfCycle := yearOfCycle * 365 + yearOfCycle / 4 - yearOfCycle / 100 + dayOfYear
  cycle * 146097 + dayOfCycle - 719468

def isValid (c : Civil) : Bool := ofDays c.toDays = c

end Civil

end DocStore
