import DocStore.Number.Decimal
import DocStore.Text.Class

/-!
This module contains the numerals that are read from text: integers in a base and decimals, with
blanks around them, a sign, digits of any script and single underscores between digits.
-/

namespace DocStore.Numeral

open Text

def maxDigits : Nat := 4300

def isLong (n : Int) : Bool := 10 ^ maxDigits ≤ n.natAbs

def text (n : Int) : List Char :=
  match n with
  | .ofNat k => Nat.toDigits 10 k
  | .negSucc k => '-' :: Nat.toDigits 10 (k + 1)

def digitValue? (base : Nat) (c : Char) : Option Nat :=
  let value? :=
    if 'a' ≤ c ∧ c ≤ 'z' then some (c.toNat - 'a'.toNat + 10)
    else if 'A' ≤ c ∧ c ≤ 'Z' then some (c.toNat - 'A'.toNat + 10)
    else digit? c
  value?.bind fun v => if v < base then some v else none

/--
Read digits of a base up to the first other character. An underscore may stand between two digits.
The answer holds the value, the number of digits and the rest.
-/
def digits (base : Nat) (s : List Char) : Nat × Nat × List Char :=
  go 0 0 s
where
  go (value count : Nat) : List Char → Nat × Nat × List Char
    | [] => (value, count, [])
    | c :: rest =>
      match digitValue? base c with
      | some v => go (base * value + v) (count + 1) rest
      | none =>
        if c = '_' ∧ 0 < count then
          match rest with
          | d :: rest' =>
            match digitValue? base d with
            | some v => go (base * value + v) (count + 1) rest'
            | none => (value, count, c :: rest)
          | [] => (value, count, [c])
        else (value, count, c :: rest)

def isPadding (c : Char) : Bool := isBlank c && !(0x1c ≤ c.toNat && c.toNat ≤ 0x1f)

def trim (s : List Char) : List Char :=
  ((s.dropWhile isPadding).reverse.dropWhile isPadding).reverse

def ofBytes (bs : List UInt8) : List Char :=
  bs.map fun b => if b < 128 then Char.ofNat b.toNat else '\ufffd'

def sign : List Char → Bool × List Char
  | '-' :: rest => (true, rest)
  | '+' :: rest => (false, rest)
  | s => (false, s)

inductive IntegerReading where
  | value (n : Int)
  | malformed
  | tooLong (count : Nat)
  deriving DecidableEq, Repr

def readInteger (s : List Char) : IntegerReading :=
  let (negative, body) := sign (trim s)
  match digits 10 body with
  | (value, count, []) =>
    if count = 0 then .malformed
    else if maxDigits < count then .tooLong count
    else .value (if negative then -(value : Int) else value)
  | _ => .malformed

def readHexadecimal? (s : List Char) : Option Int :=
  let (negative, body) := sign (trim s)
  let body := match body with
    | '0' :: x :: '_' :: rest => if x = 'x' ∨ x = 'X' then rest else body
    | '0' :: x :: rest => if x = 'x' ∨ x = 'X' then rest else body
    | _ => body
  match digits 16 body with
  | (value, count, []) =>
    if count = 0 then none else some (if negative then -(value : Int) else value)
  | _ => none

def readDouble? (s : List Char) : Option Double :=
  let (negative, body) := sign (trim s)
  let word := String.ofList (body.map Char.toLower)
  if word = "nan" then some .nan
  else if word = "inf" ∨ word = "infinity" then some (.infinite negative)
  else
    let (whole, wholeCount, rest) := digits 10 body
    let (fraction, fractionCount, rest) := match rest with
      | '.' :: r => digits 10 r
      | r => (0, 0, r)
    if wholeCount + fractionCount = 0 then none
    else
      let mantissa := whole * 10 ^ fractionCount + fraction
      match rest with
      | [] => some (.ofDecimal negative mantissa (-fractionCount))
      | e :: r =>
        if e = 'e' ∨ e = 'E' then
          let (lower, r) := sign r
          match digits 10 r with
          | (value, count, []) =>
            if count = 0 then none
            else
              let exponent : Int := if lower then -(value : Int) else value
              some (.ofDecimal negative mantissa (exponent - fractionCount))
          | _ => none
        else none

end DocStore.Numeral
