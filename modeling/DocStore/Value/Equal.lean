import DocStore.Value.Basic

/-!
This module contains the equality of values: numbers are equal by value whatever their kind, objects
and sets are equal without regard to order, and nothing else is equal across kinds.
-/

namespace DocStore

namespace Value

def equalsInteger (n : Int) : Value → Bool
  | .double x => x.orderInt? n = some .eq
  | v => v.integer? = some n

mutual

def equals : Value → Value → Bool
  | .null, .null => true
  | .bool a, v => v.equalsInteger a.toInt
  | .int a, v => v.equalsInteger a
  | .long a, v => v.equalsInteger a
  | .double x, .double y => x.order? y = some .eq
  | .double x, v => v.integer?.any fun n => x.orderInt? n = some .eq
  | .text a, .text b => a = b
  | .date a, .date b => a.sameAs b
  | .id a, .id b => a = b
  | .list xs, .list ys => equalLists xs ys
  | .tuple xs, .tuple ys => equalLists xs ys
  | .set _ xs, .set _ ys => xs.length = ys.length && allMembers xs ys
  | .bytes a, .bytes b => a = b
  | .binary s a, .binary t b => s = t ∧ a = b
  | .object fs, .object gs => fs.length = gs.length && allFields fs gs
  | .regex s f, .regex t g => s = t ∧ f = g
  | .storedRegex s f _, .storedRegex t g _ => s = t ∧ f = g
  | .minKey, .minKey => true
  | .maxKey, .maxKey => true
  | .timestamp t i, .timestamp u j => t = u ∧ i = j
  | .token a, .token b => a = b
  | _, _ => false

def equalLists : List Value → List Value → Bool
  | [], [] => true
  | x :: xs, y :: ys => x.equals y && equalLists xs ys
  | _, _ => false

def allMembers : List Value → List Value → Bool
  | [], _ => true
  | x :: xs, ys => ys.any (x.equals ·) && allMembers xs ys

def allFields : List (Value × Value) → List (Value × Value) → Bool
  | [], _ => true
  | (k, v) :: fs, gs => gs.any (fun g => k.equals g.1 && v.equals g.2) && allFields fs gs

end

end Value

namespace Fields

def get? (fs : Fields) (k : Value) : Option Value :=
  (fs.find? fun f => f.1.equals k).map (·.2)

def contains (fs : Fields) (k : Value) : Bool :=
  fs.any fun f => f.1.equals k

/-- Put a value under a key. A key that is present keeps its place and its spelling. -/
def insert (fs : Fields) (k v : Value) : Fields :=
  if fs.contains k then fs.map fun f => if f.1.equals k then (f.1, v) else f
  else fs ++ [(k, v)]

def erase (fs : Fields) (k : Value) : Fields :=
  fs.filter fun f => !f.1.equals k

def merge (fs gs : Fields) : Fields :=
  gs.foldl (fun acc g => acc.insert g.1 g.2) fs

/--
The fields with the given names and values, a later one replacing an earlier one of the same key.
-/
def ofList (entries : List (Value × Value)) : Fields :=
  merge [] entries

def getD (fs : Fields) (name : String) : Value :=
  (fs.get? (.text name)).getD .null

end Fields

namespace Value

def insertInteger (n : Int) (x : Value) : List Value → List Value
  | [] => [x]
  | y :: ys =>
    match y.integer? with
    | some m => if n < m then x :: y :: ys else y :: insertInteger n x ys
    | none => y :: insertInteger n x ys

def insertMember (xs : List Value) (x : Value) : List Value :=
  if xs.any (·.equals x) then xs
  else match x.integer? with
    | some n => insertInteger n x xs
    | none => xs ++ [x]

def members (xs : List Value) : List Value := xs.foldl insertMember []

end Value

end DocStore
