import DocStore.Query.Equal
import DocStore.Query.Pattern
import DocStore.Value.Order

/-!
This module contains the operators of queries.
-/

namespace DocStore

inductive Operator where
  | equal
  | unequal
  | ordered (r : Relation)
  | among
  | notAmong
  | pattern
  deriving DecidableEq, Repr

namespace Operator

def ofName? (name : String) : Option Operator :=
  match name with
  | "$eq" => some .equal
  | "$ne" => some .unequal
  | "$gt" => some (.ordered .greater)
  | "$gte" => some (.ordered .greaterOrEqual)
  | "$lt" => some (.ordered .less)
  | "$lte" => some (.ordered .lessOrEqual)
  | "$in" => some .among
  | "$nin" => some .notAmong
  | "$regex" => some .pattern
  | _ => none

def ofKey? (key : Value) : Option Operator :=
  match key with
  | .text name => ofName? name
  | _ => none

end Operator

def relationHolds (r : Relation) (left right : Value) : Bool :=
  match left, right with
  | .null, _ => false
  | _, .null => false
  | left, right => (Value.relate r left right).getD false

def isAmong (operator : String) (v candidates : Value) : Except Error Bool :=
  match candidates with
  | .list xs => .ok (xs.any (valuesEqual v))
  | .tuple xs => .ok (xs.any (valuesEqual v))
  | .set _ xs => .ok (xs.any (valuesEqual v))
  | other => .error (.argument (.notAList operator other))

def Operator.holds (o : Operator) (operand options v : Value) : Except Error Bool :=
  match o with
  | .equal => .ok (valuesEqual v operand)
  | .unequal => .ok !(valuesEqual v operand)
  | .ordered r => .ok (relationHolds r v operand)
  | .among => isAmong "$in" v operand
  | .notAmong => (isAmong "$nin" v operand).map (!·)
  | .pattern => patternMatches v operand options

end DocStore
