/-!
This module contains the kinds of faults that are answered without a text of their own.
-/

namespace DocStore

inductive Fault where
  | wrongKind
  | noOperation
  | badValue
  | noKey
  | noIndex
  | outOfRange
  | notUtf8
  | badDate
  | badBase64
  | notHeld
  | tooFar
  | crossedGroup
  deriving DecidableEq, Repr, Inhabited

end DocStore
