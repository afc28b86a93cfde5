import DocStore.Number.Numeral
import DocStore.Pattern.Reading
import DocStore.Text.CharacterName
import DocStore.Text.Hex

/-!
This module contains the escapes of regular expressions: what a pair of a backslash and a character
stands for, within a class of characters and outside of one.
-/

namespace DocStore.Pattern

def controlEscapes : List (Char × Nat) :=
  [('a', 7), ('b', 8), ('f', 12), ('n', 10), ('r', 13), ('t', 9), ('v', 11), ('\\', 92)]

def categoryEscapes : List (Char × ClassItem) :=
  [('d', .category .digit false), ('D', .category .digit true), ('s', .category .blank false),
   ('S', .category .blank true), ('w', .category .word false), ('W', .category .word true)]

def anchorEscapes : List (Char × Anchor) :=
  [('A', .textStart), ('b', .wordEdge false), ('B', .wordEdge true), ('Z', .textEnd)]

def isHexDigit (c : Char) : Bool := Text.hexNumber? [c] |>.isSome

def isOctalDigit (c : Char) : Bool := '0' ≤ c ∧ c ≤ '7'

def numberOf (base : Nat) (s : List Char) : Nat :=
  s.foldl (fun n c => base * n + ((Text.hexNumber? [c]).getD 0)) 0

namespace Reader

def hexEscape (letter : Char) (count : Nat) : Reader Nat := do
  let digits ← takeWhile isHexDigit count
  let text := '\\' :: letter :: digits
  if digits.length ≠ count then fail (.incompleteEscape text) text.length
  let c := numberOf 16 digits
  if 0x110000 ≤ c then fail (.badEscape text) text.length
  return c

def namedEscape : Reader Nat := do
  if !(← accept '\x7b') then fail .noBrace
  let name ← takeName '\x7d' "character name"
  match Text.characterNamed? name with
  | some c => return c.toNat
  | none => fail (.characterName name) (name.length + 4)

def plainEscape (c : Char) : Reader Nat := do
  if c.isAlphanum then fail (.badEscape ['\\', c]) 2
  return c.toNat

def classEscape (c : Char) : Reader ClassItem := do
  match controlEscapes.lookup c, categoryEscapes.lookup c with
  | some n, _ => return .char n
  | none, some item => return item
  | none, none =>
    match c with
    | 'x' => return .char (← hexEscape c 2)
    | 'u' => return .char (← hexEscape c 4)
    | 'U' => return .char (← hexEscape c 8)
    | 'N' => return .char (← namedEscape)
    | c =>
      if isOctalDigit c then
        let digits := c :: (← takeWhile isOctalDigit 2)
        let n := numberOf 8 digits
        if 0o377 < n then fail (.octalRange ('\\' :: digits)) (digits.length + 1)
        return .char n
      return .char (← plainEscape c)

def numberEscape (c : Char) : Reader Node := do
  let second ← takeWhile Char.isDigit 1
  let third ←
    if isOctalDigit c && !second.isEmpty && second.all isOctalDigit then takeWhile isOctalDigit 1
    else pure []
  let digits := c :: second ++ third
  let text := '\\' :: digits
  if !third.isEmpty then
    let n := numberOf 8 digits
    if 0o377 < n then fail (.octalRange text) text.length
    return .char false n
  let number := numberOf 10 digits
  if number < (← groupCount) then
    if !(← isClosed number) then fail .openGroup text.length
    checkBehind number
    return .reference number
  fail (.noGroup number) digits.length

def escape (c : Char) : Reader Node := do
  match anchorEscapes.lookup c, categoryEscapes.lookup c, controlEscapes.lookup c with
  | some a, _, _ => return .anchor a
  | none, some item, _ => return .charClass false [item]
  | none, none, some n => return .char false n
  | none, none, none =>
    match c with
    | 'x' => return .char false (← hexEscape c 2)
    | 'u' => return .char false (← hexEscape c 4)
    | 'U' => return .char false (← hexEscape c 8)
    | 'N' => return .char false (← namedEscape)
    | '0' => return .char false (numberOf 8 (← takeWhile isOctalDigit 2))
    | c => if c.isDigit then numberEscape c else return .char false (← plainEscape c)

end Reader

end DocStore.Pattern
