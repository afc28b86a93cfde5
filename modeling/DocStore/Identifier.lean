import DocStore.Value.Equal

/-!
This module contains the supply of new identifiers, and what counts as an identifier: an identifier
or its 24 hexadecimal digits.
-/

namespace DocStore

-- Named, so that every supply that begins at the first identifier rests on this one proof.
theorem IdSupply.first_lt : 0x65a000000000000000000001 < 2 ^ 96 := by decide

structure IdSupply where
  upcoming : ObjectId := ⟨⟨0x65a000000000000000000001, IdSupply.first_lt⟩⟩
  deriving DecidableEq, Repr

namespace IdSupply

def draw (s : IdSupply) : ObjectId × IdSupply := (s.upcoming, ⟨s.upcoming.next⟩)

/--
Hand out identifiers until one is not taken, at most one more than the given number. Identifiers
that follow one another differ, so that of one more than there are taken ones one is free, unless
all are taken.
-/
def drawFree (taken : List Char → Bool) : Nat → IdSupply → Option ObjectId × IdSupply
  | 0, s =>
    let (i, rest) := s.draw
    (if taken i.hex then none else some i, rest)
  | n + 1, s =>
    let (i, rest) := s.draw
    if taken i.hex then drawFree taken n rest else (some i, rest)

end IdSupply

namespace Value

def normalizeId : Value → Value
  | .id i => .ofText i.hex
  | v => v

def isObjectId : Value → Bool
  | .id _ => true
  | .text s => (ObjectId.ofHex? s.toList).isSome
  | _ => false

def toObjectId : Value → Value
  | .text s =>
    match ObjectId.ofHex? s.toList with
    | some i => .id i
    | none => .text s
  | v => v

end Value

end DocStore
