import DocStore.Value.Equal

/-!
This module contains the native order of values: four relations that hold, fail or do not apply to
two values. Most kinds are ordered only among themselves.
-/

namespace DocStore

inductive Relation where
  | less
  | lessOrEqual
  | greater
  | greaterOrEqual
  deriving DecidableEq, Repr

namespace Relation

def holds : Relation → Ordering → Bool
  | .less, o => o = .lt
  | .lessOrEqual, o => o ≠ .gt
  | .greater, o => o = .gt
  | .greaterOrEqual, o => o ≠ .lt

def isReflexive : Relation → Bool
  | .lessOrEqual => true
  | .greaterOrEqual => true
  | _ => false

def holdsOfLengths (r : Relation) (a b : Nat) : Bool := r.holds (compare a b)

end Relation

def lexicographic {α : Type} (order : α → α → Ordering) : List α → List α → Ordering
  | [], [] => .eq
  | [], _ :: _ => .lt
  | _ :: _, [] => .gt
  | a :: as, b :: bs => (order a b).then (lexicographic order as bs)

def textOrder (a b : String) : Ordering :=
  lexicographic (fun c d => compare c.toNat d.toNat) a.toList b.toList

def byteOrder (a b : List UInt8) : Ordering :=
  lexicographic (fun c d => compare c.toNat d.toNat) a b

namespace Value

def numberOrder? : Value → Value → Option (Option Ordering)
  | .double x, .double y => some (x.order? y)
  | .double x, w => w.integer?.map fun n => x.orderInt? n
  | v, .double y => v.integer?.map fun n => (y.orderInt? n).map Ordering.swap
  | v, w => match v.integer?, w.integer? with
    | some m, some n => some (some (compare m n))
    | _, _ => none

def relateSets (r : Relation) (xs ys : List Value) : Bool :=
  match r with
  | .less => xs.length < ys.length && allMembers xs ys
  | .lessOrEqual => allMembers xs ys
  | .greater => ys.length < xs.length && allMembers ys xs
  | .greaterOrEqual => allMembers ys xs

mutual

/--
Whether a relation holds of two values; there is no answer if the kinds have no common order. The
least and the greatest key are ordered with every value.
-/
def relate (r : Relation) : Value → Value → Option Bool
  | .minKey, v => some (match v, r with
    | .minKey, r => r.isReflexive
    | _, r => r.holds .lt)
  | .maxKey, v => some (match v, r with
    | .maxKey, r => r.isReflexive
    | _, r => r.holds .gt)
  | _, .minKey => some (r.holds .gt)
  | _, .maxKey => some (r.holds .lt)
  | .text a, .text b => some (r.holds (textOrder a b))
  | .date a, .date b => (a.order? b).map r.holds
  | .id a, .id b => some (r.holds (compare a.bits.val b.bits.val))
  | .bytes a, .bytes b => some (r.holds (byteOrder a b))
  | .bytes a, .binary _ b => some (r.holds (byteOrder a b))
  | .binary _ a, .bytes b => some (r.holds (byteOrder a b))
  | .binary _ a, .binary _ b => some (r.holds (byteOrder a b))
  | .timestamp t i, .timestamp u j => some (r.holds ((compare t u).then (compare i j)))
  | .set _ xs, .set _ ys => some (relateSets r xs ys)
  | .list xs, .list ys => relateLists r xs ys
  | .tuple xs, .tuple ys => relateLists r xs ys
  | v, w => (numberOrder? v w).map fun order? => order?.any r.holds

def relateLists (r : Relation) : List Value → List Value → Option Bool
  | x :: xs, y :: ys => if x.equals y then relateLists r xs ys else relate r x y
  | xs, ys => some (r.holdsOfLengths xs.length ys.length)

end

end Value

end DocStore
