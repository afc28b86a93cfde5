import DocStore.Fault
import DocStore.Value.Equal

/-!
This module contains the look-up of a field by its key or by a dotted path.
-/

namespace DocStore

def splitPoints (s : List Char) : List (List Char) :=
  match s with
  | [] => [[]]
  | c :: rest =>
    if c = '.' then [] :: splitPoints rest
    else match splitPoints rest with
      | [] => [[c]]
      | p :: ps => (c :: p) :: ps

/--
Follow a path into nested objects. The walk ends at the first value that is absent, null or no
object.
-/
def followPath : List (List Char) → Value → Value
  | [], v => v
  | p :: ps, .object fs =>
    match (Fields.get? fs (.ofText p)).getD .null with
    | .null => .null
    | v => followPath ps v
  | _ :: _, _ => .null

def holdsPoint (xs : List Value) : Bool := xs.any (·.equals (.text "."))

def lookupPath (doc key : Value) : Except Fault Value :=
  match key with
  | .text s => .ok (if s.toList.contains '.' then followPath (splitPoints s.toList) doc else .null)
  | .list xs => plain xs
  | .tuple xs => plain xs
  | .set _ xs => plain xs
  | .object fs => plain (fs.map (·.1))
  | _ => .error .wrongKind
where
  plain (xs : List Value) : Except Fault Value :=
    if holdsPoint xs then .error .noOperation else .ok .null

def itemAt (xs : List Value) (key : Value) : Except Fault Value :=
  match key.integer? with
  | none => .error .wrongKind
  | some n =>
    match xs[(if n < 0 then n + xs.length else n).toNat]? with
    | some v => if n + xs.length < 0 then .error .noIndex else .ok v
    | none => .error .noIndex

def byteAt (bs : List UInt8) (key : Value) : Except Fault Value :=
  match key.integer? with
  | none => .error .wrongKind
  | some n =>
    if n < 0 ∨ 256 ≤ n then .error .badValue
    else if !bs.any (·.toNat = n.toNat) then .error .wrongKind
    else match bs[n.toNat]? with
      | some b => .ok (.int b.toNat)
      | none => .error .noIndex

def canBeMember (key : Value) : Bool :=
  match key with
  | .set .. => true
  | key => key.isHashable

def occursIn (part : List Char) : List Char → Bool
  | [] => part.isEmpty
  | c :: s => part.isPrefixOf (c :: s) || occursIn part s

/--
The value of a field. A key that the document has wins over the dotted path; an absent field is
null. Values other than documents are searched for the key as they are.
-/
def getField (doc key : Value) : Except Fault Value :=
  match doc with
  | .object fs =>
    if !key.isHashable then .error .wrongKind
    else match Fields.get? fs key with
      | some v => .ok v
      | none => lookupPath doc key
  | .list xs => if xs.any (·.equals key) then itemAt xs key else lookupPath doc key
  | .tuple xs => if xs.any (·.equals key) then itemAt xs key else lookupPath doc key
  | .set _ xs =>
    if canBeMember key && !xs.any (·.equals key) then lookupPath doc key else .error .wrongKind
  | .bytes bs => byteAt bs key
  | .binary _ bs => byteAt bs key
  | .text s =>
    match key with
    | .text k => if occursIn k.toList s.toList then .error .wrongKind else lookupPath doc key
    | _ => .error .wrongKind
  | _ => .error .wrongKind

end DocStore
