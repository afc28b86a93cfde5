import DocStore.Json.Reader
import DocStore.Value.Equal

/-!
This module contains the values of JSON texts in which no object stands for something else.
-/

namespace DocStore

namespace Json

mutual

def toValue : Json → Value
  | .null => .null
  | .bool b => .bool b
  | .int n => .int n
  | .number x => .double x
  | .text s => .ofText s
  | .array xs => .list (itemsToValues xs)
  | .object ms => .object (Fields.ofList (membersToFields ms))

def itemsToValues : List Json → List Value
  | [] => []
  | x :: xs => x.toValue :: itemsToValues xs

def membersToFields : List (List Char × Json) → Fields
  | [] => []
  | (k, v) :: ms => (.ofText k, v.toValue) :: membersToFields ms

end

end Json

end DocStore
