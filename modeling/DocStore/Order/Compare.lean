import DocStore.Identifier
import DocStore.Order.Canonical

/-!
This module contains the comparison of values of all kinds: null, numbers and moments, texts and
identifiers, objects and lists, booleans, and then all others.
-/

namespace DocStore

inductive Rank where
  | number
  | text
  | object
  | boolean
  | other (kind : String)
  deriving DecidableEq, Repr

namespace Rank

def ofValue : Value → Rank
  | .bool _ => .boolean
  | .int _ => .number
  | .long _ => .number
  | .double _ => .number
  | .text _ => .text
  | .object _ => .object
  | .list _ => .object
  | .tuple _ => .object
  | v => .other v.kindName

def place : Rank → Nat
  | .number => 1
  | .text => 2
  | .object => 3
  | .boolean => 4
  | .other _ => 99

end Rank

def signOf : Ordering → Int
  | .lt => -1
  | .eq => 0
  | .gt => 1

/-- The sign of the difference of an integer and a number. The integer is rounded first. -/
def differenceSign (n : Int) (x : Double) : Except Fault Int :=
  match Double.ofInt? n with
  | none => .error .outOfRange
  | some y => .ok (signOf ((y.order? x).getD .eq))

def compareNumbers (a b : Value) : Except Fault Int :=
  match a, b with
  | .double x, .double y => .ok (signOf ((x.order? y).getD .eq))
  | .double x, b => do return -(← differenceSign (b.integer?.getD 0) x)
  | a, .double y => differenceSign (a.integer?.getD 0) y
  | a, b => .ok (signOf (compare (a.integer?.getD 0) (b.integer?.getD 0)))

def compareNatively (a b : Value) : Int :=
  match Value.relate .greater a b, Value.relate .less a b with
  | some g, some l => g.toInt - l.toInt
  | _, _ => 0

def comparable (v : Value) : Except Fault Value :=
  match v with
  | .date m =>
    match m.timestamp? with
    | some x => .ok (.double (x.scale 1000))
    | none => .error .badValue
  | v => .ok v.normalizeId

def compareKinds (a b : Value) : Except Fault Int :=
  let ra := Rank.ofValue a
  let rb := Rank.ofValue b
  if ra = rb then
    match ra with
    | .number => compareNumbers a b
    | .object => do
      let left ← a.canonical
      let right ← b.canonical
      return signOf (lexicographic (fun c d => compare c.toNat d.toNat) left right)
    | _ => .ok (compareNatively a b)
  else .ok (signOf (compare ra.place rb.place))

def compareValues (a b : Value) : Except Fault Int :=
  match a, b with
  | .null, .null => .ok 0
  | .null, _ => .ok (-1)
  | _, .null => .ok 1
  | a, b => do compareKinds (← comparable a) (← comparable b)

end DocStore
