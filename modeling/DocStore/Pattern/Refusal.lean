import DocStore.Text.Quoted

/-!
This module contains the reasons for which the source of a regular expression is refused.
-/

namespace DocStore.Pattern

inductive Cause where
  | danglingEscape
  | badEscape (text : List Char)
  | incompleteEscape (text : List Char)
  | octalRange (text : List Char)
  | noBrace
  | characterName (name : List Char)
  | missing (what : String)
  | unterminatedName (terminator : Char)
  | groupName (name : List Char)
  | unknownGroup (name : List Char)
  | redefinition (name : List Char) (number previous : Nat)
  | groupNumber
  | noGroup (number : Nat)
  | openGroup
  | groupBehind
  | unterminatedClass
  | range (first last : List Char)
  | repeatOrder
  | nothingToRepeat
  | multipleRepeat
  | endOfPattern
  | extension (text : List Char)
  | unterminatedComment
  | unterminatedGroup
  | manyBranches
  | lateFlags
  | localeFlag
  | flagConflict
  | unknownFlag
  | missingFlagEnd
  | missingFlag
  | missingColon
  | globalOn
  | globalOff
  | alphabetOff
  | onAndOff
  | unbalanced
  | variableBehind
  | templateRepeat (kind : String)

namespace Cause

def message : Cause → List Char
  | .danglingEscape => "bad escape (end of pattern)".toList
  | .badEscape s => "bad escape ".toList ++ s
  | .incompleteEscape s => "incomplete escape ".toList ++ s
  | .octalRange s => "octal escape value ".toList ++ s ++ " outside of range 0-0o377".toList
  | .noBrace => "missing \x7b".toList
  | .characterName s => "undefined character name ".toList ++ Text.quote s
  | .missing what => "missing ".toList ++ what.toList
  | .unterminatedName c => "missing ".toList ++ c :: ", unterminated name".toList
  | .groupName s => "bad character in group name ".toList ++ Text.quote s
  | .unknownGroup s => "unknown group name ".toList ++ Text.quote s
  | .redefinition s n p =>
    "redefinition of group name ".toList ++ Text.quote s ++ s!" as group {n}; was group {p}".toList
  | .groupNumber => "bad group number".toList
  | .noGroup n => s!"invalid group reference {n}".toList
  | .openGroup => "cannot refer to an open group".toList
  | .groupBehind => "cannot refer to group defined in the same lookbehind subpattern".toList
  | .unterminatedClass => "unterminated character set".toList
  | .range a b => "bad character range ".toList ++ a ++ '-' :: b
  | .repeatOrder => "min repeat greater than max repeat".toList
  | .nothingToRepeat => "nothing to repeat".toList
  | .multipleRepeat => "multiple repeat".toList
  | .endOfPattern => "unexpected end of pattern".toList
  | .extension s => "unknown extension ".toList ++ s
  | .unterminatedComment => "missing ), unterminated comment".toList
  | .unterminatedGroup => "missing ), unterminated subpattern".toList
  | .manyBranches => "conditional backref with more than two branches".toList
  | .lateFlags => "global flags not at the start of the expression".toList
  | .localeFlag => "bad inline flags: cannot use 'L' flag with a str pattern".toList
  | .flagConflict => "bad inline flags: flags 'a', 'u' and 'L' are incompatible".toList
  | .unknownFlag => "unknown flag".toList
  | .missingFlagEnd => "missing -, : or )".toList
  | .missingFlag => "missing flag".toList
  | .missingColon => "missing :".toList
  | .globalOn => "bad inline flags: cannot turn on global flag".toList
  | .globalOff => "bad inline flags: cannot turn off global flag".toList
  | .alphabetOff => "bad inline flags: cannot turn off flags 'a', 'u' and 'L'".toList
  | .onAndOff => "bad inline flags: flag turned on and off".toList
  | .unbalanced => "unbalanced parenthesis".toList
  | .variableBehind => "look-behind requires fixed-width pattern".toList
  | .templateRepeat kind => "internal: unsupported template operator ".toList ++ kind.toList

end Cause

inductive Refusal where
  | malformed (cause : Cause) (position : Option Nat)
  | rounds
  | digits
  | flags
  | distance

def lineColumn (source : List Char) (position : Nat) : Nat × Nat :=
  let before := source.take position
  (before.count '\n' + 1, (before.reverse.takeWhile (· ≠ '\n')).length + 1)

namespace Cause

def messageAt (cause : Cause) (source : List Char) : Option Nat → List Char
  | none => cause.message
  | some p =>
    let (line, column) := lineColumn source p
    cause.message ++ s!" at position {p}".toList
      ++ (if source.contains '\n' then s!" (line {line}, column {column})".toList else [])

end Cause

end DocStore.Pattern
