import DocStore.Pattern.Standing

/-!
This module contains the ways to match: one after the other, by rounds of any length, and by rounds
of one character.
-/

namespace DocStore.Pattern

/-- What has to match from an index on after an expression. -/
abbrev Rest := Nat → Standing → Outcome

abbrev Matcher := Nat → Standing → Rest → Outcome

namespace Matcher

def alone (m : Matcher) (i : Nat) (s : Standing) : Outcome := m i s Outcome.success

def assert (test : Nat → Bool) : Matcher := fun i s rest =>
  if test i then rest i s else .failure s

def atomic (body : Matcher) : Matcher := fun i s rest =>
  let r := (body.alone i (s.moveTo i)).orBack i
  if r.found then rest r.standing.place r.standing else r

def look (body : Matcher) (back : Nat) : Matcher := fun i s rest =>
  if i < back then .failure s
  else
    let r := body.alone (i - back) (s.moveTo (i - back))
    if r.found then rest i r.standing else r

def lookNot (body : Matcher) (back : Nat) (inner : Bool) : Matcher := fun i s rest =>
  if i < back then rest i s
  else
    let r := body.alone (i - back) (s.moveTo (i - back))
    if r.found then .failure r.standing else rest i (s.afterFailure r.standing inner)

structure Branch where
  mayBegin : Nat → Bool
  body : Matcher

def firstOf (before : Standing) (inner : Bool) : List Branch → Matcher
  | [], _, s, _ => .failure s
  | b :: bs, i, s, rest =>
    if b.mayBegin i then
      let r := b.body i (s.moveTo i) rest
      if r.found then r else firstOf before inner bs i (before.afterFailure r.standing inner) rest
    else firstOf before inner bs i s rest

structure Bounds where
  least : Nat
  most : Option Nat

def Bounds.allow (b : Bounds) (count : Nat) : Bool := b.most.all (count < ·)

/--
Match as many rounds as there are, and fewer if the rest does not match after them. Beyond the least
number, no round begins where the one before it began.
-/
def greedy (body : Matcher) (bounds : Bounds) (rest : Rest) :
    Nat → Nat → Option Nat → Nat → Standing → Outcome
  | 0, _, _, _, s => .failure s
  | fuel + 1, count, last, i, s =>
    let s := s.moveTo i
    if count < bounds.least then
      (body i s (greedy body bounds rest fuel (count + 1) last)).orBack i
    else
      let r : Outcome :=
        if bounds.allow count && last ≠ some i then
          body i s (greedy body bounds rest fuel (count + 1) (some i))
        else .failure s
      if r.found then r else (rest i s).orBack i

def lazy (body : Matcher) (bounds : Bounds) (inner : Bool) (rest : Rest) :
    Nat → Nat → Option Nat → Nat → Standing → Outcome
  | 0, _, _, _, s => .failure s
  | fuel + 1, count, last, i, s =>
    let s := s.moveTo i
    if count < bounds.least then
      (body i s (lazy body bounds inner rest fuel (count + 1) last)).orBack i
    else
      let r := (rest i s).orBack i
      if r.found then r
      else
        let s := s.afterFailure r.standing inner
        if bounds.allow count && last ≠ some i then
          (body i s (lazy body bounds inner rest fuel (count + 1) (some i))).orBack i
        else .failure s

/--
Match as many rounds as there are, each in its first way, and never fewer. The rest is matched from
the place that the last attempt at a round has left.
-/
def possessive (body : Matcher) (bounds : Bounds) (start : Nat) (rest : Rest) :
    Nat → Nat → Standing → Outcome
  | 0, _, s => .failure s
  | fuel + 1, count, s =>
    if count < bounds.least then
      let r := body.alone s.place s
      if r.found then possessive body bounds start rest fuel (count + 1) r.standing
      else .failure (r.standing.moveTo start)
    else if bounds.allow count then
      let r := body.alone s.place s
      if !r.found then rest r.standing.place (s.afterFailure r.standing true)
      else if r.standing.place = s.place then rest r.standing.place r.standing
      else possessive body bounds start rest fuel (count + 1) r.standing
    else rest s.place s

structure Single where
  test : Char → Bool
  moves : Bool

namespace Single

def count (u : Single) (text : Array Char) (i : Nat) : Nat → Nat
  | 0 => 0
  | n + 1 =>
    match text[i]? with
    | some c => if u.test c then u.count text (i + 1) n + 1 else 0
    | none => 0

def placeAfter (u : Single) (i n : Nat) : Nat := if u.moves then i + n else i

end Single

def one (u : Single) (text : Array Char) : Matcher := fun i s rest =>
  match text[i]? with
  | some c => if u.test c then rest (i + 1) s else .failure s
  | none => .failure s

def restAt (before : Standing) (inner : Bool) (mayBegin : Nat → Bool) (rest : Rest) :
    List Nat → Standing → Outcome
  | [], s => .failure s
  | i :: is, s =>
    if mayBegin i then
      let r := rest i (s.moveTo i)
      if r.found then r else restAt before inner mayBegin rest is
        (before.afterFailure r.standing inner)
    else restAt before inner mayBegin rest is s

def greedyOne (u : Single) (text : Array Char) (bounds : Bounds) (inner : Bool)
    (mayFollow : Nat → Bool) :
    Matcher := fun i s rest =>
  let room := text.size - i
  if room < bounds.least then .failure s
  else
    let n := u.count text i (min room (bounds.most.getD room))
    let s := s.moveTo (u.placeAfter i n)
    if n < bounds.least then .failure s
    else
      let places := (List.range (n + 1 - bounds.least)).map fun k => i + n - k
      restAt s inner mayFollow rest places s

def lazyFrom (u : Single) (text : Array Char) (bounds : Bounds) (inner : Bool) (rest : Rest) :
    Nat → Nat → Nat → Standing → Outcome
  | 0, _, _, s => .failure s
  | fuel + 1, count, i, s =>
    if bounds.most.all (count ≤ ·) then
      let r := (rest i (s.moveTo i)).orBack i
      if r.found then r
      else
        let s := s.afterFailure r.standing inner
        if u.count text i 1 = 0 then .failure s
        else lazyFrom u text bounds inner rest fuel (count + 1) (i + 1)
          (s.moveTo (u.placeAfter i 1))
    else .failure s

def lazyOne (u : Single) (text : Array Char) (bounds : Bounds) (inner : Bool) : Matcher :=
  fun i s rest =>
  let room := text.size - i
  if room < bounds.least then .failure s
  else
    let n := u.count text i bounds.least
    let s := s.moveTo (u.placeAfter i n)
    if n < bounds.least then .failure s
    else lazyFrom u text bounds inner rest (room + 1) n (i + n) s

def possessiveOne (u : Single) (text : Array Char) (bounds : Bounds) : Matcher := fun i s rest =>
  let room := text.size - i
  if room < bounds.least then .failure s
  else
    let n := u.count text i (min room (bounds.most.getD room))
    let s := s.moveTo (u.placeAfter i n)
    if n < bounds.least then .failure s else rest (i + n) s

end Matcher

end DocStore.Pattern
