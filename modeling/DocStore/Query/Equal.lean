import DocStore.Identifier

/-!
This module contains the equality that queries and identifiers use.
-/

namespace DocStore

/--
Equality with two rules of its own at the top: an identifier equals its digits, and a boolean equals
booleans only.
-/
def valuesEqual (left right : Value) : Bool :=
  match left.normalizeId, right.normalizeId with
  | .bool a, .bool b => a = b
  | .bool _, _ => false
  | _, .bool _ => false
  | a, b => a.equals b

end DocStore
