import DocStore.Query.Field
import DocStore.Query.Operator

/-!
This module contains the matching of documents: a query maps fields to conditions, and a document
matches if all of them hold. A condition is a literal or an object of operators.
-/

namespace DocStore

def isOperatorKey (key : Value) : Bool :=
  match key with
  | .text s => s.toList.head? = some '$'
  | _ => false

/--
Whether a condition is read as operators: it is an object with a key that begins with a dollar sign.
-/
def isOperatorObject (condition : Value) : Bool :=
  match condition with
  | .object fs => fs.any fun f => isOperatorKey f.1
  | _ => false

def entryHolds (options v : Value) (entry : Value × Value) : Except Error Bool :=
  match Operator.ofKey? entry.1 with
  | some o => o.holds entry.2 options v
  | none => .ok true

def allHold {α : Type} (test : α → Except Error Bool) : List α → Except Error Bool
  | [] => .ok true
  | x :: xs => do if ← test x then allHold test xs else return false

def conditionHolds (v condition : Value) : Except Error Bool :=
  match condition with
  | .object fs =>
    if isOperatorObject condition then allHold (entryHolds (Fields.getD fs "$options") v) fs
    else .ok (valuesEqual v condition)
  | condition => .ok (valuesEqual v condition)

def fieldHolds (doc : Value) (entry : Value × Value) : Except Error Bool := do
  conditionHolds (← (getField doc entry.1).mapError .fault) entry.2

def isMatch (doc query : Value) : Except Error Bool :=
  if !query.isTruthy then .ok true
  else match query with
    | .object conditions => allHold (fieldHolds doc) conditions
    | _ => .error (.fault .noOperation)

end DocStore
