import DocStore.Json.Basic
import DocStore.Number.Numeral
import DocStore.Text.Quoted

/-!
This module contains the writer of JSON texts.
-/

namespace DocStore

namespace Json

structure Style where
  indent : Option Nat
  asciiOnly : Bool
  spaced : Bool := true

def Style.plain : Style := ⟨none, true, true⟩

def Style.indented : Style := ⟨some 2, false, true⟩

def unitEscape (n : Nat) : List Char := '\\' :: 'u' :: Text.hexDigits 4 n

def writeChar (asciiOnly : Bool) (c : Char) : List Char :=
  if c = '"' then ['\\', '"']
  else if c = '\\' then ['\\', '\\']
  else if c = '\n' then ['\\', 'n']
  else if c = '\r' then ['\\', 'r']
  else if c = '\t' then ['\\', 't']
  else if c.toNat = 8 then ['\\', 'b']
  else if c.toNat = 12 then ['\\', 'f']
  else if c.toNat < 32 then unitEscape c.toNat
  else if c.toNat < 127 ∨ !asciiOnly then [c]
  else if c.toNat < 0x10000 then unitEscape c.toNat
  else
    let n := c.toNat - 0x10000
    unitEscape (0xd800 + n / 0x400) ++ unitEscape (0xdc00 + n % 0x400)

def writeText (asciiOnly : Bool) (s : List Char) : List Char :=
  '"' :: s.flatMap (writeChar asciiOnly) ++ ['"']

def writeNumber : Double → List Char
  | .nan => "NaN".toList
  | .infinite false => "Infinity".toList
  | .infinite true => "-Infinity".toList
  | x => x.text

def newline (style : Style) (level : Nat) : List Char :=
  match style.indent with
  | some width => '\n' :: List.replicate (width * level) ' '
  | none => []

def separator (style : Style) (level : Nat) : List Char :=
  ',' :: (if style.indent.isNone && style.spaced then [' '] else newline style level)

mutual

def writeAt (style : Style) (level : Nat) : Json → List Char
  | .null => "null".toList
  | .bool b => (if b then "true" else "false").toList
  | .int n => Numeral.text n
  | .number x => writeNumber x
  | .text s => writeText style.asciiOnly s
  | .array [] => ['[', ']']
  | .array (x :: xs) =>
    '[' :: newline style level ++ writeAt style (level + 1) x ++ writeItems style level xs
      ++ newline style (level - 1) ++ [']']
  | .object [] => ['\x7b', '\x7d']
  | .object ((k, v) :: ms) =>
    '\x7b' :: newline style level ++ writeText style.asciiOnly k ++ colon style
      ++ writeAt style (level + 1) v ++ writeMembers style level ms
      ++ newline style (level - 1) ++ ['\x7d']

def writeItems (style : Style) (level : Nat) : List Json → List Char
  | [] => []
  | x :: xs => separator style level ++ writeAt style (level + 1) x ++ writeItems style level xs

def writeMembers (style : Style) (level : Nat) : List (List Char × Json) → List Char
  | [] => []
  | (k, v) :: ms =>
    separator style level ++ writeText style.asciiOnly k ++ colon style
      ++ writeAt style (level + 1) v ++ writeMembers style level ms

def colon (style : Style) : List Char := if style.spaced then [':', ' '] else [':']

end

def write (style : Style) (j : Json) : List Char := writeAt style 1 j

end Json

end DocStore
