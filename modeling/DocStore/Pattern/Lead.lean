import DocStore.Pattern.Letter
import DocStore.Pattern.Matcher

/-!
This module contains what nodes begin with: the character or class that has to come first, and nodes
that are one character as a whole.
-/

namespace DocStore.Pattern

inductive Lead where
  | nothing
  | char (c : Nat)
  | oneOf (test : Char → Bool)
  | other

namespace Lead

def allows (l : Lead) (text : Array Char) (i : Nat) : Bool :=
  match l with
  | .char n => text[i]?.any (·.toNat = n)
  | .oneOf test => text[i]?.any test
  | _ => true

def allowsAfter (l : Lead) (text : Array Char) (i : Nat) : Bool :=
  match l with
  | .char n => text[i]?.any (·.toNat = n)
  | _ => true

def orNext (l next : Lead) : Lead :=
  match l with
  | .nothing => next
  | l => l

end Lead

namespace Node

mutual

def lead (flags : Flags) : Node → Lead
  | .char false n => if isFolded flags n then .other else .char n
  | .charClass negated items =>
    if isFoldedClass flags items then .other else .oneOf (matchesClass flags negated items)
  | .group none on off body => leadOfAll (flags.within on off) body
  | _ => .other

def leadOfAll (flags : Flags) : List Node → Lead
  | [] => .nothing
  | n :: ns => (n.lead flags).orNext (leadOfAll flags ns)

end

mutual

def single? (flags : Flags) : Node → Option Matcher.Single
  | .char negated n =>
    some ⟨fun c => matchesChar flags n c != negated, isFolded flags n && hasSiblings n⟩
  | .any => some ⟨fun c => flags.dotAll || c ≠ '\n', false⟩
  | .charClass negated items => some ⟨matchesClass flags negated items, isFoldedClass flags items⟩
  | .group none on off body => singleOfAll? (flags.within on off) body
  | _ => none
where
  hasSiblings (n : Nat) : Bool := !(siblings flags (small flags (Char.ofNat n))).isEmpty

def singleOfAll? (flags : Flags) : List Node → Option Matcher.Single
  | [n] => n.single? flags
  | _ => none

end

end Node

end DocStore.Pattern
