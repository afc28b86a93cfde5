import DocStore.Fault
import DocStore.Pattern.Lead
import DocStore.Pattern.Source

/-!
This module contains the search for a regular expression in a text. Alternatives are tried in the
order of the expression, and the first way to match all of it counts.
-/

namespace DocStore.Pattern

def isWord (flags : Flags) (c : Option Char) : Bool := c.any (Category.word.contains flags.ascii ·)

def Anchor.holds (a : Anchor) (flags : Flags) (text : Array Char) (i : Nat) : Bool :=
  let before := if i = 0 then none else text[i - 1]?
  match a with
  | .textStart => i = 0
  | .textEnd => i = text.size
  | .lineStart => i = 0 || (flags.multiline && before = some '\n')
  | .lineEnd =>
    i = text.size || (text[i]? = some '\n' && (flags.multiline || i + 1 = text.size))
  | .wordEdge negated =>
    text.size ≠ 0 && (isWord flags before != isWord flags text[i]?) != negated

def sameAt (text : Array Char) (flags : Flags) (source target : Nat) : Nat → Option Nat
  | 0 => some target
  | n + 1 =>
    match text[source]?, text[target]? with
    | some c, some d =>
      if c = d || (flags.ignoreCase && small flags c = small flags d) then
        sameAt text flags (source + 1) (target + 1) n
      else none
    | _, _ => none

structure Setting where
  text : Array Char
  groups : Nat → Width
  flags : Flags
  /-- Whether the node is in the rounds of a repetition that can be taken back. -/
  inner : Bool := false
  /-- What comes after the node, up to the end of the group, branch or repetition that it is in. -/
  next : Lead := .nothing

namespace Setting

def alone (s : Setting) : Setting := { s with next := .nothing }

def rounds (s : Setting) (greed : Greed) : Setting :=
  { s with next := .nothing, inner := s.inner || greed ≠ .possessive }

end Setting

namespace Node

mutual

def matcher (s : Setting) : Node → Matcher
  | .char negated n => Matcher.one ⟨fun c => matchesChar s.flags n c != negated, false⟩ s.text
  | .any => Matcher.one ⟨fun c => s.flags.dotAll || c ≠ '\n', false⟩ s.text
  | .charClass negated items => Matcher.one ⟨matchesClass s.flags negated items, false⟩ s.text
  | .anchor a => Matcher.assert (a.holds s.flags s.text)
  | .alternation bs => fun i t rest =>
    Matcher.firstOf t s.inner (branches s.alone bs) i t rest
  | .group none on off body => sequenceMatcher { s with flags := s.flags.within on off } body
  | .group (some g) on off body => fun i t rest =>
    sequenceMatcher { s.alone with flags := s.flags.within on off } body i
      { t with marks := t.marks.enter g i } fun j u => rest j { u with marks := u.marks.leave g j }
  | .atomic body => Matcher.atomic (sequenceMatcher s.alone body)
  | .repetition least most greed body =>
    match singleOfAll? s.flags body with
    | some u =>
      match greed with
      | .greedy => Matcher.greedyOne u s.text ⟨least, most⟩ s.inner (s.next.allowsAfter s.text)
      | .lazy => Matcher.lazyOne u s.text ⟨least, most⟩ s.inner
      | .possessive => Matcher.possessiveOne u s.text ⟨least, most⟩
    | none => fun i t rest =>
      let round := sequenceMatcher (s.rounds greed) body
      let fuel := least + (s.text.size - i) + 3
      match greed with
      | .greedy => Matcher.greedy round ⟨least, most⟩ rest fuel 0 none i t
      | .lazy => Matcher.lazy round ⟨least, most⟩ s.inner rest fuel 0 none i t
      | .possessive => Matcher.possessive round ⟨least, most⟩ i rest fuel 0 (t.moveTo i)
  | .look behind negated body =>
    let back := if behind then (sequenceWidth s.groups body).least else 0
    let inner := sequenceMatcher s.alone body
    if negated then Matcher.lookNot inner back s.inner else Matcher.look inner back
  | .reference g => fun i t rest =>
    match t.marks.span? g with
    | none => .failure t
    | some (a, b) =>
      match sameAt s.text s.flags a i (b - a) with
      | some j => rest j t
      | none => .failure t
  | .conditional g yes no => fun i t rest =>
    if (t.marks.span? g).isSome then
      sequenceMatcher (if no.isEmpty then s else s.alone) yes i t rest
    else sequenceMatcher s no i t rest

def sequenceMatcher (s : Setting) : List Node → Matcher
  | [] => fun i t rest => rest i t
  | n :: ns => fun i t rest =>
    n.matcher { s with next := (leadOfAll s.flags ns).orNext s.next } i t fun j u =>
      sequenceMatcher s ns j u rest

def branches (s : Setting) : List (List Node) → List Matcher.Branch
  | [] => []
  | ns :: bs => ⟨(leadOfAll s.flags ns).allows s.text, sequenceMatcher s ns⟩ :: branches s bs

end

end Node

inductive Begin where
  | anywhere
  | literal
  | oneOf (negated : Bool) (items : List ClassItem)

namespace Begin

mutual

/--
Whether a node begins with a character that case makes no difference to, or is nothing to match. The
answer is absent if it begins with anything else.
-/
def literal? (flags : Flags) : Node → Option Bool
  | .char false n => if isFolded flags n then none else some true
  | .group _ on off body => literalOfAll? (flags.within on off) body
  | _ => none

def literalOfAll? (flags : Flags) : List Node → Option Bool
  | [] => some false
  | n :: ns =>
    match literal? flags n with
    | some false => literalOfAll? flags ns
    | answer => answer

end

mutual

def class? (flags : Flags) : Node → Option (Bool × List ClassItem)
  | .charClass negated items =>
    if flags.ignoreCase && items.any (isUnfit flags) then none else some (negated, items)
  | .group _ on off body => classOfAll? (flags.within on off) body
  | _ => none
where
  isUnfit (flags : Flags) (item : ClassItem) : Bool :=
    item.hasCase flags ||
      match item with
      | .range _ b => firstPlane ≤ b
      | _ => false

def classOfAll? (flags : Flags) : List Node → Option (Bool × List ClassItem)
  | [] => none
  | n :: _ => class? flags n

end

def ofNodes (flags : Flags) (nodes : List Node) : Begin :=
  match literalOfAll? flags nodes with
  | some true => .literal
  | _ =>
    match classOfAll? flags nodes with
    | some (negated, items) => .oneOf negated items
    | none => .anywhere

end Begin

namespace Regex

/--
The indices where a match is tried. A text that is too short has none. A class at the beginning is
looked for with the options of the whole expression.
-/
def starts (r : Regex) (text : Array Char) : List Nat :=
  let least := (Node.sequenceWidth r.groups r.body).least
  let all := List.range (text.size + 1)
  if least = 0 then all
  else if text.size < least then []
  else
    match Begin.ofNodes r.flags r.body with
    | .literal => all
    | .oneOf negated items =>
      let test := matchesClass { r.flags with ignoreCase := false } negated items
      all.filter fun i => text[i]?.any test
    | .anywhere => List.range (text.size - (least - 1) + 1)

def find? (r : Regex) (text : Array Char) : Option Marks :=
  let m := Node.sequenceMatcher ⟨text, r.groups, r.flags, false, .nothing⟩ r.body
  (r.starts text).findSome? fun i =>
    let o := m.alone i ⟨i, []⟩
    if o.found then some o.standing.marks else none

/--
Whether the expression matches a part of the text. A match with a group that ends before it begins
is none.
-/
def occursIn (r : Regex) (text : List Char) : Except Fault Bool :=
  match r.find? text.toArray with
  | none => .ok false
  | some marks => if marks.isCrossed then .error .crossedGroup else .ok true

end Regex

end DocStore.Pattern
