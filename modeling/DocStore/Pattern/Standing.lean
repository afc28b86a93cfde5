/-!
This module contains what an attempt to match leaves behind: the places where groups begin and end,
and the place where the attempt was last.
-/

namespace DocStore.Pattern

/--
The places where the groups begin and end, in turn, the first group standing first. Places that were
not reached are absent.
-/
abbrev Marks := List (Option Nat)

namespace Marks

def put (m : Marks) (index place : Nat) : Marks :=
  if index < m.length then m.set index (some place)
  else m ++ List.replicate (index - m.length) none ++ [some place]

def enter (m : Marks) (group place : Nat) : Marks := m.put (2 * group - 2) place

def leave (m : Marks) (group place : Nat) : Marks := m.put (2 * group - 1) place

def span? (m : Marks) (group : Nat) : Option (Nat × Nat) :=
  match m[2 * group - 2]?, m[2 * group - 1]? with
  | some (some a), some (some b) => if a ≤ b then some (a, b) else none
  | _, _ => none

def isCrossed : Marks → Bool
  | a :: b :: rest =>
    (match a, b with
      | some a, some b => decide (b < a)
      | _, _ => false) || isCrossed rest
  | _ => false

/--
The marks after an attempt from which nothing is kept: marks that were there before may have moved,
unless all of them are put back.
-/
def afterFailure (before after : Marks) (whole : Bool) : Marks :=
  if whole then before else after.take before.length

end Marks

structure Standing where
  place : Nat
  marks : Marks := []
  deriving DecidableEq, Repr

namespace Standing

def moveTo (s : Standing) (place : Nat) : Standing := { s with place }

def afterFailure (before after : Standing) (whole : Bool) : Standing :=
  ⟨after.place, before.marks.afterFailure after.marks whole⟩

end Standing

structure Outcome where
  found : Bool
  standing : Standing

namespace Outcome

def failure (s : Standing) : Outcome := ⟨false, s⟩

def success (i : Nat) (s : Standing) : Outcome := ⟨true, s.moveTo i⟩

def orBack (r : Outcome) (place : Nat) : Outcome :=
  if r.found then r else failure (r.standing.moveTo place)

end Outcome

end DocStore.Pattern
