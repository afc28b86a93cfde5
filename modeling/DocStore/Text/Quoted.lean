import DocStore.Text.Printable

/-!
This module contains quoted text: a text or a string of bytes between quotes, with escapes for what
does not stand for itself.
-/

namespace DocStore.Text

def hexDigits (width n : Nat) : List Char :=
  let digits := Nat.toDigits 16 n
  List.replicate (width - digits.length) '0' ++ digits

/-- Single quotes, unless the text has single quotes and no double ones. -/
def chooseQuote (hasSingle hasDouble : Bool) : Char :=
  if hasSingle && !hasDouble then '"' else '\''

def quoteChar (quote c : Char) : List Char :=
  if c = quote ∨ c = '\\' then ['\\', c]
  else if c = '\n' then ['\\', 'n']
  else if c = '\r' then ['\\', 'r']
  else if c = '\t' then ['\\', 't']
  else if isPrintable c then [c]
  else if c.toNat < 0x100 then '\\' :: 'x' :: hexDigits 2 c.toNat
  else if c.toNat < 0x10000 then '\\' :: 'u' :: hexDigits 4 c.toNat
  else '\\' :: 'U' :: hexDigits 8 c.toNat

def quote (s : List Char) : List Char :=
  let q := chooseQuote (s.contains '\'') (s.contains '"')
  q :: s.flatMap (quoteChar q) ++ [q]

def quoteByte (quote : Char) (b : UInt8) : List Char :=
  let c := Char.ofNat b.toNat
  if b < 128 && (isPrintable c || c = '\n' || c = '\r' || c = '\t') then quoteChar quote c
  else '\\' :: 'x' :: hexDigits 2 b.toNat

def quoteBytes (bs : List UInt8) : List Char :=
  let q := chooseQuote (bs.contains 39) (bs.contains 34)
  'b' :: q :: bs.flatMap (quoteByte q) ++ [q]

end DocStore.Text
