import DocStore.Text.CharacterName.Alias
import DocStore.Text.CharacterName.Ancient
import DocStore.Text.CharacterName.Eastern
import DocStore.Text.CharacterName.Extension
import DocStore.Text.CharacterName.Hieroglyph
import DocStore.Text.CharacterName.Listing
import DocStore.Text.CharacterName.Notation
import DocStore.Text.CharacterName.Pictograph
import DocStore.Text.CharacterName.Presentation
import DocStore.Text.CharacterName.Southern
import DocStore.Text.CharacterName.Syllable
import DocStore.Text.CharacterName.Symbol
import DocStore.Text.CharacterName.Western

/-!
This module contains the look-up of a character by its name.
-/

namespace DocStore.Text

namespace CharacterName

def listings : List String :=
  [western, southern, extensions, symbols, eastern, presentations, ancient, hieroglyphs, notations,
   pictographs, aliases]

def ideographRanges : List (Nat × Nat) :=
  [(0x3400, 0x4dbf), (0x4e00, 0x9fff), (0x20000, 0x2a6df), (0x2a700, 0x2b738), (0x2b740, 0x2b81d),
   (0x2b820, 0x2cea1), (0x2ceb0, 0x2ebe0), (0x30000, 0x3134a)]

def numberedNames : List (String × List (Nat × Nat)) :=
  [("CJK COMPATIBILITY IDEOGRAPH-", [(0xf900, 0xfa6d), (0xfa70, 0xfad9), (0x2f800, 0x2fa1d)]),
   ("KHITAN SMALL SCRIPT CHARACTER-", [(0x18b00, 0x18cd5)]),
     ("NUSHU CHARACTER-", [(0x1b170, 0x1b2fb)])]

def after? (beginning : String) (s : List Char) : Option (List Char) :=
  if beginning.toList.isPrefixOf s then some (s.drop beginning.length) else none

def number? (ranges : List (Nat × Nat)) (digits : List Char) : Option Nat := do
  if digits.length ≠ 4 ∧ digits.length ≠ 5 ∨ digits.any Char.isLower then none
  let n ← hexNumber? digits
  if ranges.any fun r => r.1 ≤ n ∧ n ≤ r.2 then some n else none

def numbered? (name : List Char) : Option Nat :=
  numberedNames.findSome? fun e => do
    let digits ← after? e.1 name
    if digits.head? = some '0' then none else number? e.2 digits

def listed? (name : List Char) : Option Nat :=
  (numbered? name).or (listings.findSome? (find? name))

end CharacterName

/--
The character of a name in letters of either case. The names of syllables and of unified ideographs
are in large letters only.
-/
def characterNamed? (name : List Char) : Option Char :=
  (match CharacterName.after? "HANGUL SYLLABLE " name,
      CharacterName.after? "CJK UNIFIED IDEOGRAPH-" name with
    | some parts, _ => CharacterName.syllable? parts
    | none, some digits => CharacterName.number? CharacterName.ideographRanges digits
    | none, none => CharacterName.listed? (name.map Char.toUpper)).map Char.ofNat

end DocStore.Text
