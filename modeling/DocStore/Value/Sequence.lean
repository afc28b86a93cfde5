import DocStore.Fault
import DocStore.Value.Basic

/-!
This module contains values as sequences of values.
-/

namespace DocStore

namespace Value

def items : Value → Except Fault (List Value)
  | .list xs => .ok xs
  | .tuple xs => .ok xs
  | .set _ xs => .ok xs
  | .text s => .ok (s.toList.map fun c => .ofText [c])
  | .bytes bs => .ok (bs.map fun b => .int b.toNat)
  | .binary _ bs => .ok (bs.map fun b => .int b.toNat)
  | .object fs => .ok (fs.map (·.1))
  | _ => .error .wrongKind

def pair (v : Value) : Except Fault (Value × Value) :=
  match v.items with
  | .ok [a, b] => .ok (a, b)
  | .ok _ => .error .badValue
  | .error e => .error e

end Value

end DocStore
