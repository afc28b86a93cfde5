import DocStore.Json.Basic
import DocStore.Number.Numeral
import DocStore.Text.Hex

/-!
This module contains the reader of JSON texts. A text that is refused is refused with the cause, the
place, and the trees that were complete before it.
-/

namespace DocStore

namespace Json

inductive Cause where
  | byteOrderMark
  | value
  | propertyName
  | colon
  | comma
  | unterminated
  | control
  | escape
  | unicodeEscape
  | extra
  | longInteger (count : Nat)
  deriving DecidableEq, Repr

structure Refusal where
  cause : Cause
  remaining : Nat
  /-- The greatest trees that were complete, in order. -/
  complete : List Json := []

abbrev Reading (α : Type) := Except Refusal (α × List Char)

def refuse {α : Type} (cause : Cause) (place : List Char) : Reading α :=
  .error ⟨cause, place.length, []⟩

def isSpace (c : Char) : Bool := c = ' ' || c = '\t' || c = '\n' || c = '\r'

def skipSpaces (s : List Char) : List Char := s.dropWhile isSpace

def isHighSurrogate (n : Nat) : Bool := 0xd800 ≤ n ∧ n < 0xdc00

def isLowSurrogate (n : Nat) : Bool := 0xdc00 ≤ n ∧ n < 0xe000

def hex4? (a b c d : Char) : Option Nat := Text.hexNumber? [a, b, c, d]

def simpleEscape? (c : Char) : Option Char :=
  if c = '"' ∨ c = '\\' ∨ c = '/' then some c
  else if c = 'b' then some (Char.ofNat 8)
  else if c = 'f' then some (Char.ofNat 12)
  else if c = 'n' then some '\n'
  else if c = 'r' then some '\r'
  else if c = 't' then some '\t'
  else none

inductive Piece where
  | char (c : Char)
  | unit (n : Nat)
  deriving DecidableEq, Repr

def readPieces (opening : Nat) : List Char → Reading (List Piece)
  | [] => .error ⟨.unterminated, opening, []⟩
  | '"' :: rest => .ok ([], rest)
  | '\\' :: 'u' :: a :: b :: c :: d :: t =>
    match hex4? a b c d with
    | some n =>
      if t.isEmpty then refuse .unicodeEscape ('u' :: a :: b :: c :: d :: t)
      else prepend (.unit n) (readPieces opening t)
    | none => refuse .unicodeEscape ('u' :: a :: b :: c :: d :: t)
  | '\\' :: 'u' :: t => refuse .unicodeEscape ('u' :: t)
  | '\\' :: c :: t =>
    match simpleEscape? c with
    | some d => prepend (.char d) (readPieces opening t)
    | none => refuse .escape ('\\' :: c :: t)
  | ['\\'] => .error ⟨.unterminated, opening, []⟩
  | c :: t =>
    if c.toNat < 32 then refuse .control (c :: t) else prepend (.char c) (readPieces opening t)
where
  prepend (p : Piece) : Reading (List Piece) → Reading (List Piece)
    | .ok (ps, rest) => .ok (p :: ps, rest)
    | .error e => .error e

/--
The character of an escape of 16 bits. A half of a surrogate pair that stands alone is replaced.
-/
def unitChar (n : Nat) : Char :=
  if isHighSurrogate n ∨ isLowSurrogate n then '\ufffd' else Char.ofNat n

def joinPieces : List Piece → List Char
  | [] => []
  | .char c :: ps => c :: joinPieces ps
  | .unit n :: .unit m :: ps =>
    if isHighSurrogate n && isLowSurrogate m then
      Char.ofNat (0x10000 + (n - 0xd800) * 0x400 + (m - 0xdc00)) :: joinPieces ps
    else unitChar n :: joinPieces (.unit m :: ps)
  | .unit n :: ps => unitChar n :: joinPieces ps

def readText (opening : Nat) (s : List Char) : Reading (List Char) :=
  (readPieces opening s).map fun (ps, rest) => (joinPieces ps, rest)

def splitDigits (s : List Char) : List Char × List Char :=
  (s.takeWhile Char.isDigit, s.dropWhile Char.isDigit)

def digitsValue (s : List Char) : Nat :=
  s.foldl (fun acc c => 10 * acc + (c.toNat - '0'.toNat)) 0

def readFraction : List Char → List Char × List Char
  | '.' :: rest =>
    match splitDigits rest with
    | ([], _) => ([], '.' :: rest)
    | (ds, rest') => (ds, rest')
  | s => ([], s)

def readExponent : List Char → Option Int × List Char
  | e :: rest =>
    if e = 'e' ∨ e = 'E' then
      let (negative, body) := Numeral.sign rest
      match splitDigits body with
      | ([], _) => (none, e :: rest)
      | (ds, rest') =>
        (some (if negative then -(digitsValue ds : Int) else digitsValue ds), rest')
    else (none, e :: rest)
  | [] => (none, [])

def readNumber (negative : Bool) (place s : List Char) : Reading Json :=
  let whole := match s with
    | '0' :: rest => some (['0'], rest)
    | s => match splitDigits s with
      | ([], _) => none
      | p => some p
  match whole with
  | none => refuse .value place
  | some (ds, rest) =>
    let (fraction, rest) := readFraction rest
    let (exponent?, rest) := readExponent rest
    match fraction, exponent? with
    | [], none =>
      if Numeral.maxDigits < ds.length then refuse (.longInteger ds.length) place
      else
        let n : Int := digitsValue ds
        .ok (.int (if negative then -n else n), rest)
    | fraction, exponent? =>
      let x :=
        Double.ofDecimal negative (digitsValue (ds ++ fraction))
          (exponent?.getD 0 - fraction.length)
      .ok (.number x, rest)

def completing {α : Type} (trees : List Json) : Reading α → Reading α
  | .error e => .error { e with complete := trees ++ e.complete }
  | r => r

mutual

def readValue : Nat → List Char → Reading Json
  | 0, s => refuse .value s
  | fuel + 1, s =>
    match s with
    | '"' :: rest => (readText s.length rest).map fun (t, r) => (.text t, r)
    | '\x7b' :: rest =>
      match skipSpaces rest with
      | '\x7d' :: rest => .ok (.object [], rest)
      | rest => (readMembers fuel rest).map fun (ms, r) => (.object ms, r)
    | '[' :: rest =>
      match skipSpaces rest with
      | ']' :: rest => .ok (.array [], rest)
      | rest => (readItems fuel rest).map fun (xs, r) => (.array xs, r)
    | 'n' :: 'u' :: 'l' :: 'l' :: rest => .ok (.null, rest)
    | 't' :: 'r' :: 'u' :: 'e' :: rest => .ok (.bool true, rest)
    | 'f' :: 'a' :: 'l' :: 's' :: 'e' :: rest => .ok (.bool false, rest)
    | 'N' :: 'a' :: 'N' :: rest => .ok (.number .nan, rest)
    | 'I' :: 'n' :: 'f' :: 'i' :: 'n' :: 'i' :: 't' :: 'y' :: rest =>
      .ok (.number (.infinite false), rest)
    | '-' :: 'I' :: 'n' :: 'f' :: 'i' :: 'n' :: 'i' :: 't' :: 'y' :: rest =>
      .ok (.number (.infinite true), rest)
    | '-' :: rest => readNumber true s rest
    | s => readNumber false s s

def readItems : Nat → List Char → Reading (List Json)
  | 0, s => refuse .value s
  | fuel + 1, s =>
    match readValue fuel s with
    | .error e => .error e
    | .ok (x, rest) =>
      match skipSpaces rest with
      | ']' :: rest => .ok ([x], rest)
      | ',' :: rest =>
        completing [x] ((readItems fuel (skipSpaces rest)).map fun (xs, r) => (x :: xs, r))
      | rest => completing [x] (refuse .comma rest)

def readMembers : Nat → List Char → Reading (List (List Char × Json))
  | 0, s => refuse .propertyName s
  | fuel + 1, s =>
    match s with
    | '"' :: rest =>
      match readText s.length rest with
      | .error e => .error e
      | .ok (k, rest) =>
        match skipSpaces rest with
        | ':' :: rest =>
          match readValue fuel (skipSpaces rest) with
          | .error e => .error e
          | .ok (v, rest) =>
            match skipSpaces rest with
            | '\x7d' :: rest => .ok ([(k, v)], rest)
            | ',' :: rest =>
              completing [v] ((readMembers fuel (skipSpaces rest)).map fun (ms, r) =>
                ((k, v) :: ms, r))
            | rest => completing [v] (refuse .comma rest)
        | rest => refuse .colon rest
    | s => refuse .propertyName s

end

def read (s : List Char) : Except Refusal Json :=
  match s with
  | '\ufeff' :: _ => .error ⟨.byteOrderMark, s.length, []⟩
  | s =>
    match readValue (2 * s.length + 2) (skipSpaces s) with
    | .error e => .error e
    | .ok (j, rest) =>
      match skipSpaces rest with
      | [] => .ok j
      | rest => .error ⟨.extra, rest.length, [j]⟩

def lineAndColumn (before : List Char) : Nat × Nat :=
  (before.count '\n' + 1, (before.reverse.takeWhile (· ≠ '\n')).length + 1)

def Cause.text : Cause → String
  | .byteOrderMark => "Unexpected UTF-8 BOM (decode using utf-8-sig)"
  | .value => "Expecting value"
  | .propertyName => "Expecting property name enclosed in double quotes"
  | .colon => "Expecting ':' delimiter"
  | .comma => "Expecting ',' delimiter"
  | .unterminated => "Unterminated string starting at"
  | .control => "Invalid control character at"
  | .escape => "Invalid \\escape"
  | .unicodeEscape => "Invalid \\uXXXX escape"
  | .extra => "Extra data"
  | .longInteger count =>
    s!"Exceeds the limit ({Numeral.maxDigits} digits) for integer string conversion: "
      ++ s!"value has {count} digits; use sys.set_int_max_str_digits() to increase the limit"

def Refusal.message (e : Refusal) (s : List Char) : String :=
  match e.cause with
  | .longInteger _ => e.cause.text
  | cause =>
    let position := s.length - e.remaining
    let (line, column) := lineAndColumn (s.take position)
    s!"{cause.text}: line {line} column {column} (char {position})"

end Json

end DocStore
