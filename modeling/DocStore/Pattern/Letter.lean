import DocStore.Pattern.Syntax
import DocStore.Text.Alphanumeric
import DocStore.Text.Case
import DocStore.Text.Class

/-!
This module contains the comparison of a character with a character, a class or a category of a
regular expression.
-/

namespace DocStore.Pattern

def Category.contains (k : Category) (ascii : Bool) (c : Char) : Bool :=
  match k with
  | .digit => if ascii then c.isDigit else Text.isDigit c
  | .blank => if ascii then [9, 10, 11, 12, 13, 32].contains c.toNat else Text.isBlank c
  | .word => c = '_' || (if ascii then c.isAlphanum else Text.isAlphanumeric c)

def small (flags : Flags) (c : Char) : Char :=
  if flags.ascii then c.toLower else Text.toLower c

def hasCase (flags : Flags) (c : Char) : Bool :=
  if flags.ascii then c.isAlpha else Text.isCased c

def siblings (flags : Flags) (c : Char) : List Char :=
  if flags.ascii then [] else Text.siblingsOf c

def forms (flags : Flags) (c : Char) : List Nat :=
  c.toNat :: (if flags.ascii then (if c.isLower then [c.toUpper.toNat] else []) else
    Text.capitalsOf c)

def isFolded (flags : Flags) (n : Nat) : Bool := flags.ignoreCase && hasCase flags (Char.ofNat n)

def matchesChar (flags : Flags) (n : Nat) (c : Char) : Bool :=
  if !n.isValidChar then false
  else if isFolded flags n then
    let d := small flags (Char.ofNat n)
    (d :: siblings flags d).contains (small flags c)
  else c.toNat = n

def firstPlane : Nat := 0x10000

namespace ClassItem

def hasCase (flags : Flags) : ClassItem → Bool
  | .char n => Pattern.hasCase flags (Char.ofNat n)
  | .range a b =>
    if flags.ascii then (a ≤ 90 && 65 ≤ b) || (a ≤ 122 && 97 ≤ b) else Text.hasCasedIn a b
  | .category .. => false

def leavesPlane : ClassItem → Bool
  | .char n => firstPlane ≤ n
  | .range _ b => firstPlane ≤ b
  | .category .. => false

def holds (flags : Flags) (c : Char) : ClassItem → Bool
  | .char n => c.toNat = n
  | .range a b => a ≤ c.toNat && c.toNat ≤ b
  | .category k negated => k.contains flags.ascii c != negated

/--
Whether an item holds a small character, one that is as good, or one that has it as its small form.
Beyond the first plane, a single character stands for itself only, and a range is asked for the
character and for its capital form.
-/
def holdsForm (flags : Flags) (c : Char) (item : ClassItem) : Bool :=
  match item with
  | .char n =>
    if firstPlane ≤ n then c.toNat = n
    else n.isValidChar && (c :: siblings flags c).contains (small flags (Char.ofNat n))
  | .range a b =>
    item.holds flags c || inPlane a (min b (firstPlane - 1))
      || firstPlane ≤ b && item.holds flags (Text.toUpper c)
  | .category k negated => k.contains flags.ascii c != negated
where
  inPlane (a b : Nat) : Bool :=
    c.toNat < firstPlane
      && (c :: siblings flags c).any fun d => (forms flags d).any fun n => a ≤ n && n ≤ b

end ClassItem

def isFoldedClass (flags : Flags) (items : List ClassItem) : Bool :=
  flags.ignoreCase && items.any fun i => i.leavesPlane || i.hasCase flags

def matchesClass (flags : Flags) (negated : Bool) (items : List ClassItem) (c : Char) : Bool :=
  (if isFoldedClass flags items then items.any (·.holdsForm flags (small flags c))
    else items.any (·.holds flags c)) != negated

end DocStore.Pattern
