import DocStore.Fault

/-!
This module contains the slot of a collection, which mutations hold one at a time, in the order in
which they drew their tickets.
-/

namespace DocStore

structure Slot where
  drawn : Nat := 0
  serving : Nat := 0
  deriving DecidableEq, Repr

namespace Slot

def draw (s : Slot) : Nat × Slot := (s.drawn, { s with drawn := s.drawn + 1 })

def admits (s : Slot) (ticket : Nat) : Bool := s.serving = ticket

/-- Give the slot back. Nobody can give back a slot for which all tickets were served. -/
def release (s : Slot) : Except Fault Slot :=
  if s.drawn ≤ s.serving then .error .notHeld else .ok { s with serving := s.serving + 1 }

def pending (s : Slot) : Nat := s.drawn - s.serving

def isFree (s : Slot) : Bool := s.admits s.drawn

end Slot

end DocStore
