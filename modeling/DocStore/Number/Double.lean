/-!
This module contains binary floating point numbers of 64 bits as exact rational values, together
with their order, their order against integers, and correctly rounded arithmetic.
-/

namespace DocStore

/--
A power of a natural number or of an integer is the core's, also in a module that sees the powers of
monoids.
-/
@[default_instance 10100]
instance (priority := 1100) corePower {α : Type} [NatPow α] : Pow α Nat := instPowNat

/--
A binary floating point number. A finite one is named by its rank: the number of non-negative finite
numbers below its magnitude, so that ranks are ordered as the magnitudes are.
-/
inductive Double where
  | nan
  | infinite (negative : Bool)
  | finite (negative : Bool) (rank : Fin (2047 * 2 ^ 52))
  deriving DecidableEq, Repr, Inhabited

namespace Double

-- Named, so that every `0` among the ranks rests on this one proof.
instance ranks_ne_zero : @NeZero Nat Zero.ofOfNat0 (2047 * 2 ^ 52) := ⟨by decide⟩

def zero : Double := .finite false 0

def significand (rank : Nat) : Nat :=
  if rank < 2 ^ 52 then rank else 2 ^ 52 + rank % 2 ^ 52

def exponent (rank : Nat) : Int :=
  (max (rank / 2 ^ 52) 1 : Nat) - 1075

def ratio (rank : Nat) : Nat × Nat :=
  match exponent rank with
  | .ofNat e => (significand rank * 2 ^ e, 1)
  | .negSucc e => (significand rank, 2 ^ (e + 1))

def roundQuotient (num den : Nat) : Nat :=
  let q := num / den
  let twice := 2 * (num % den)
  if twice < den then q
  else if den < twice then q + 1
  else q + q % 2

def floorLog2 (num den : Nat) : Int :=
  let l : Int := (num.log2 : Int) - (den.log2 : Int)
  match l with
  | .ofNat k => if den * 2 ^ k ≤ num then l else l - 1
  | .negSucc k => if den ≤ num * 2 ^ (k + 1) then l else l - 1

def rankOfRatio (num den : Nat) : Nat :=
  if num = 0 then 0
  else
    match max (floorLog2 num den - 52) (-1074) with
    | .ofNat e => (e + 1074) * 2 ^ 52 + roundQuotient num (den * 2 ^ e)
    | .negSucc e => (1073 - e) * 2 ^ 52 + roundQuotient (num * 2 ^ (e + 1)) den

def ofRatio (negative : Bool) (num den : Nat) : Double :=
  let rank := rankOfRatio num den
  if h : rank < 2047 * 2 ^ 52 then .finite negative ⟨rank, h⟩ else .infinite negative

def ofRational (num : Int) (den : Nat) : Double :=
  ofRatio (num < 0) num.natAbs den

def ofInt? (n : Int) : Option Double :=
  match ofRational n 1 with
  | .infinite _ => none
  | x => some x

def toRational? : Double → Option (Int × Nat)
  | .finite negative rank =>
    let (num, den) := ratio rank
    some (if negative then -(num : Int) else num, den)
  | _ => none

def compareRatios (a b : Int × Nat) : Ordering :=
  compare (a.1 * b.2) (b.1 * a.2)

def order? : Double → Double → Option Ordering
  | .nan, _ => none
  | _, .nan => none
  | .infinite a, .infinite b => some (compare b.toNat a.toNat)
  | .infinite a, .finite .. => some (if a then .lt else .gt)
  | .finite .., .infinite b => some (if b then .gt else .lt)
  | .finite a r, .finite b s =>
    some (match a, b with
      | false, false => compare r.val s.val
      | true, true => compare s.val r.val
      | true, false => if r.val = 0 ∧ s.val = 0 then .eq else .lt
      | false, true => if r.val = 0 ∧ s.val = 0 then .eq else .gt)

def orderInt? (x : Double) (n : Int) : Option Ordering :=
  match x with
  | .nan => none
  | .infinite a => some (if a then .lt else .gt)
  | .finite a r =>
    let (num, den) := ratio r
    some (compareRatios (if a then -(num : Int) else num, den) (n, 1))

def scale (x : Double) (k : Nat) : Double :=
  match x with
  | .finite a r =>
    let (num, den) := ratio r
    ofRatio a (num * k) den
  | x => x

def addInt (x : Double) (n : Int) : Double :=
  match x.toRational? with
  | some (num, den) => ofRational (num + n * den) den
  | none => x

def truncate? (x : Double) : Option Int :=
  x.toRational?.map fun (num, den) => num.tdiv den

end Double

end DocStore
