/-!
This module contains the options of a regular expression.
-/

namespace DocStore.Pattern

structure Flags where
  template : Bool := false
  ignoreCase : Bool := false
  multiline : Bool := false
  dotAll : Bool := false
  verbose : Bool := false
  ascii : Bool := false
  unicode : Bool := false
  deriving DecidableEq, Repr, Inhabited

namespace Flags

def union (a b : Flags) : Flags where
  template := a.template || b.template
  ignoreCase := a.ignoreCase || b.ignoreCase
  multiline := a.multiline || b.multiline
  dotAll := a.dotAll || b.dotAll
  verbose := a.verbose || b.verbose
  ascii := a.ascii || b.ascii
  unicode := a.unicode || b.unicode

def without (a b : Flags) : Flags where
  template := a.template && !b.template
  ignoreCase := a.ignoreCase && !b.ignoreCase
  multiline := a.multiline && !b.multiline
  dotAll := a.dotAll && !b.dotAll
  verbose := a.verbose && !b.verbose
  ascii := a.ascii && !b.ascii
  unicode := a.unicode && !b.unicode

def hasAlphabet (f : Flags) : Bool := f.ascii || f.unicode

def within (flags on off : Flags) : Flags :=
  let outer := if on.hasAlphabet then { flags with ascii := false, unicode := false } else flags
  (outer.union on).without off

def letters (f : Flags) : String :=
  (if f.ignoreCase then "i" else "") ++ (if f.multiline then "m" else "")
    ++ (if f.dotAll then "s" else "") ++ (if f.verbose then "x" else "")

def ofLetter (c : Char) : Flags where
  ignoreCase := c = 'i'
  multiline := c = 'm'
  dotAll := c = 's'
  verbose := c = 'x'

def ofSourceLetter? (c : Char) : Option Flags :=
  match c with
  | 'a' => some { ascii := true }
  | 'u' => some { unicode := true }
  | 't' => some { template := true }
  | 'L' => some {}
  | 'i' | 'm' | 's' | 'x' => some (.ofLetter c)
  | _ => none

end Flags

end DocStore.Pattern
