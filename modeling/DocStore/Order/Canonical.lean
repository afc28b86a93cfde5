import DocStore.Extended.Encode
import DocStore.Fault
import DocStore.Order.StableSort
import DocStore.Value.Order

/-!
This module contains the canonical text of a value: its typed form on one line with sorted names, or
its written form if it has no typed one.
-/

namespace DocStore

namespace Value

def keyOrder? : Value → Value → Option Ordering
  | .text a, .text b => some (textOrder a b)
  | v, w => (numberOrder? v w).map (·.getD .gt)

def keyBefore (f g : Value × Value) : Except Fault Bool :=
  match keyOrder? f.1 g.1 with
  | some o => .ok (o = .lt)
  | none => .error .wrongKind

def sortFields? (fs : Fields) : Option Fields := (StableSort.sort keyBefore fs).toOption

mutual

def sortKeys? : Value → Option Value
  | .list xs => (sortAllKeys? xs).map .list
  | .tuple xs => (sortAllKeys? xs).map .list
  | .set _ xs => (sortAllKeys? xs).map .list
  | .object fs => do return .object (← sortFields? (← sortKeysIn? fs))
  | v => some v

def sortAllKeys? : List Value → Option (List Value)
  | [] => some []
  | x :: xs => do return (← sortKeys? x) :: (← sortAllKeys? xs)

def sortKeysIn? : List (Value × Value) → Option (List (Value × Value))
  | [] => some []
  | (k, v) :: fs => do return (k, ← sortKeys? v) :: (← sortKeysIn? fs)

end

def canonical (v : Value) : Except Fault (List Char) :=
  if Extended.hasEarlyDate v then .error .outOfRange
  else
    match v.sortKeys? with
    | some w =>
      match Extended.encodeTree .sortedLine w with
      | .ok j => .ok (j.write .plain)
      | .error _ => fallback
    | none => fallback
where
  fallback : Except Fault (List Char) :=
    match v.written? with
    | some s => .ok s
    | none => .error .badValue

end Value

end DocStore
