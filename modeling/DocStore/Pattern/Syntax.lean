import DocStore.Pattern.Flags

/-!
This module contains regular expressions as trees, and the numbers of characters that they match.
-/

namespace DocStore.Pattern

inductive Category where
  | digit
  | blank
  | word
  deriving DecidableEq, Repr

inductive ClassItem where
  | char (c : Nat)
  | range (first last : Nat)
  | category (c : Category) (negated : Bool)
  deriving DecidableEq, Repr

inductive Anchor where
  | textStart
  | textEnd
  | lineStart
  | lineEnd
  | wordEdge (negated : Bool)
  deriving DecidableEq, Repr

inductive Greed where
  | greedy
  | lazy
  | possessive
  deriving DecidableEq, Repr

inductive Node where
  | char (negated : Bool) (c : Nat)
  | any
  | charClass (negated : Bool) (items : List ClassItem)
  | anchor (a : Anchor)
  | alternation (branches : List (List Node))
  | group (number : Option Nat) (on off : Flags) (body : List Node)
  | atomic (body : List Node)
  | repetition (least : Nat) (most : Option Nat) (greed : Greed) (body : List Node)
  | look (behind negated : Bool) (body : List Node)
  | reference (group : Nat)
  | conditional (group : Nat) (yes no : List Node)
  deriving Inhabited

namespace Node

def isAnchor : Node → Bool
  | .anchor _ => true
  | _ => false

def isRepetition : Node → Bool
  | .repetition .. => true
  | _ => false

def plainBody? : Node → Option (List Node)
  | .group none on off body => if on = {} ∧ off = {} then some body else none
  | _ => none

def sameLeaf : Node → Node → Bool
  | .char n c, .char m d => n = m && c = d
  | .any, .any => true
  | .charClass n xs, .charClass m ys => n = m && xs = ys
  | .anchor a, .anchor b => a = b
  | .reference g, .reference h => g = h
  | _, _ => false

end Node

structure Width where
  least : Nat
  greatest : Nat
  deriving DecidableEq, Repr, Inhabited

namespace Width

/--
The greatest width that is counted. A repetition without a bound counts as one of this many rounds.
-/
def limit : Nat := 4294967295

def clamp (w : Width) : Width := ⟨min w.least (limit - 1), min w.greatest limit⟩

def add (a b : Width) : Width := clamp ⟨a.least + b.least, a.greatest + b.greatest⟩

def either (a b : Width) : Width := ⟨min a.least b.least, max a.greatest b.greatest⟩

def times (w : Width) (least : Nat) (most : Option Nat) : Width :=
  clamp ⟨w.least * least, w.greatest * most.getD limit⟩

end Width

namespace Node

mutual

def width (groups : Nat → Width) : Node → Width
  | .char .. => ⟨1, 1⟩
  | .any => ⟨1, 1⟩
  | .charClass .. => ⟨1, 1⟩
  | .anchor _ => ⟨0, 0⟩
  | .alternation bs => alternationWidth groups bs
  | .group _ _ _ ns => sequenceWidth groups ns
  | .atomic ns => sequenceWidth groups ns
  | .repetition least most _ ns => (sequenceWidth groups ns).times least most
  | .look .. => ⟨0, 0⟩
  | .reference g => groups g
  | .conditional _ yes no => (sequenceWidth groups yes).either (sequenceWidth groups no)

def sequenceWidth (groups : Nat → Width) : List Node → Width
  | [] => ⟨0, 0⟩
  | n :: ns => (n.width groups).add (sequenceWidth groups ns)

def alternationWidth (groups : Nat → Width) : List (List Node) → Width
  | [] => ⟨0, 0⟩
  | [ns] => sequenceWidth groups ns
  | ns :: bs => (sequenceWidth groups ns).either (alternationWidth groups bs)

end

end Node

end DocStore.Pattern
