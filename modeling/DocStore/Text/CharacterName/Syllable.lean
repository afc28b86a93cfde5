/-!
This module contains the names of the syllables of Hangul, which are put together from a leading
consonant, a vowel and a trailing consonant.
-/

namespace DocStore.Text.CharacterName

def leads : List String :=
  ["G", "GG", "N", "D", "DD", "R", "M", "B", "BB", "S", "SS", "", "J", "JJ", "C", "K", "T",
   "P", "H"]

def vowels : List String :=
  ["A", "AE", "YA", "YAE", "EO", "E", "YEO", "YE", "O", "WA", "WAE", "OE", "YO", "U", "WEO", "WE",
   "WI", "YU", "EU", "YI", "I"]

def trails : List String :=
  ["", "G", "GG", "GS", "N", "NJ", "NH", "D", "L", "LG", "LM", "LB", "LS", "LT", "LP", "LH", "M",
   "B", "BS", "S", "SS", "NG", "J", "C", "K", "T", "P", "H"]

def longest (parts : List String) (s : List Char) : Option (Nat × List Char) :=
  let fit := parts.zipIdx.filter fun p => p.1.toList.isPrefixOf s
  (fit.foldl longer none).map fun p => (p.2, s.drop p.1.length)
where
  longer (best : Option (String × Nat)) (p : String × Nat) : Option (String × Nat) :=
    match best with
    | none => some p
    | some b => if b.1.length < p.1.length then some p else some b

def syllable? (s : List Char) : Option Nat := do
  let (lead, s) ← longest leads s
  let (vowel, s) ← longest vowels s
  let (trail, s) ← longest trails s
  if s.isEmpty then some (0xac00 + (lead * vowels.length + vowel) * trails.length + trail) else none

end DocStore.Text.CharacterName
