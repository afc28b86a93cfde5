import DocStore.Number.Double

/-!
This module contains the two directions between binary floating point numbers and decimals: the
number nearest to a decimal, and the shortest decimal that reads back as a number.
-/

namespace DocStore

namespace Double

def digitCount (n : Nat) : Nat :=
  if n = 0 then 0 else (Nat.toDigits 10 n).length

/--
The number nearest to `digits · 10 ^ exponent`. A decimal far outside the range of the finite
numbers is decided by its size alone.
-/
def ofDecimal (negative : Bool) (digits : Nat) (exponent : Int) : Double :=
  if digits = 0 then .finite negative 0
  else if (digitCount digits : Int) + exponent > 310 then .infinite negative
  else if (digitCount digits : Int) + exponent < -330 then .finite negative 0
  else match exponent with
    | .ofNat e => ofRatio negative (digits * 10 ^ e) 1
    | .negSucc e => ofRatio negative digits (10 ^ (e + 1))

structure Decimal where
  digits : Nat
  exponent : Int
  deriving DecidableEq, Repr, Inhabited

namespace Decimal

def ratio (d : Decimal) : Nat × Nat :=
  match d.exponent with
  | .ofNat e => (d.digits * 10 ^ e, 1)
  | .negSucc e => (d.digits, 10 ^ (e + 1))

def readsBack (d : Decimal) (rank : Fin (2047 * 2 ^ 52)) : Bool :=
  ofDecimal false d.digits d.exponent = .finite false rank

def strip : Nat → Decimal → Decimal
  | 0, d => d
  | n + 1, d => if d.digits % 10 = 0 then strip n ⟨d.digits / 10, d.exponent + 1⟩ else d

def exact (num den : Nat) : Decimal :=
  ⟨num * 5 ^ den.log2, -(den.log2 : Int)⟩

def enclose (num den : Nat) (exponent : Int) : Decimal × Decimal :=
  let below := match exponent with
    | .ofNat e => num / (den * 10 ^ e)
    | .negSucc e => num * 10 ^ (e + 1) / den
  (⟨below, exponent⟩, ⟨below + 1, exponent⟩)

def lowerIsNearer (num den : Nat) (below above : Decimal) : Bool :=
  let (bn, bd) := below.ratio
  let (an, ad) := above.ratio
  match compare (2 * num * (bd * ad)) ((bn * ad + an * bd) * den) with
  | .lt => true
  | .gt => false
  | .eq => below.digits % 2 = 0

def candidate? (rank : Fin (2047 * 2 ^ 52)) (exponent : Int) : Option Decimal :=
  let (num, den) := Double.ratio rank
  let (below, above) := enclose num den exponent
  match below.readsBack rank, above.readsBack rank with
  | true, true => some (if lowerIsNearer num den below above then below else above)
  | true, false => some below
  | false, true => some above
  | false, false => none

def magnitude (num den : Nat) : Int :=
  (digitCount (num * 10 ^ 400 / den) : Int) - 400

def search (rank : Fin (2047 * 2 ^ 52)) (k : Int) : Nat → Nat → Option Decimal
  | 0, _ => none
  | tries + 1, n =>
    match candidate? rank (k - n) with
    | some d => some d
    | none => search rank k tries (n + 1)

def shortest (rank : Fin (2047 * 2 ^ 52)) : Decimal :=
  let (num, den) := Double.ratio rank
  match search rank (magnitude num den) 17 1 with
  | some d => strip 17 d
  | none => exact num den

end Decimal

structure Layout where
  lowest : Int
  highest : Int
  exponentWidth : Nat

namespace Layout

def pad (width : Nat) (s : List Char) : List Char :=
  List.replicate (width - s.length) '0' ++ s

def render (l : Layout) (d : Decimal) : List Char :=
  let digits := Nat.toDigits 10 d.digits
  let point : Int := digits.length + d.exponent
  if l.lowest ≤ point ∧ point ≤ l.highest then
    if point ≤ 0 then
      '0' :: '.' :: List.replicate point.natAbs '0' ++ digits
    else if digits.length ≤ point.toNat then
      digits ++ List.replicate (point.toNat - digits.length) '0' ++ ['.', '0']
    else
      digits.take point.toNat ++ '.' :: digits.drop point.toNat
  else
    let e := point - 1
    let mantissa := match digits with
      | [c] => [c]
      | c :: r => c :: '.' :: r
      | [] => []
    mantissa ++ 'e' :: (if e < 0 then '-' else '+') ::
      pad l.exponentWidth (Nat.toDigits 10 e.natAbs)

end Layout

/--
Numbers are written with the fewest digits that read back, positionally from `1e-4` to below `1e16`.
-/
def layout : Layout := ⟨-3, 16, 2⟩

def text : Double → List Char
  | .nan => "nan".toList
  | .infinite a => (if a then "-inf" else "inf").toList
  | .finite a r =>
    let body := if r = 0 then "0.0".toList else layout.render (Decimal.shortest r)
    if a then '-' :: body else body

end Double

end DocStore
