import DocStore.Number.Double

/-!
This module contains JSON texts as trees.
-/

namespace DocStore

/--
A JSON text as a tree. The members of an object are all that the text has, in its order, with
repeated names.
-/
inductive Json where
  | null
  | bool (b : Bool)
  | int (n : Int)
  | number (x : Double)
  | text (s : List Char)
  | array (items : List Json)
  | object (members : List (List Char × Json))
  deriving Inhabited

end DocStore
