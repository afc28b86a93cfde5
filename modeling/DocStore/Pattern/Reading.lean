import DocStore.Pattern.Refusal
import DocStore.Pattern.Symbol
import DocStore.Pattern.Syntax

/-!
This module contains the state of a reader of the source of a regular expression, and the steps that
it is made of.
-/

namespace DocStore.Pattern

structure Reading where
  rest : List Symbol
  position : Nat := 0
  flags : Flags
  groups : List (Option Width) := []
  names : List (List Char × Nat) := []
  /-- The number of groups that were opened before the outermost look behind that is open. -/
  behind : Option Nat := none
  asked : List (Nat × Nat) := []

abbrev Reader := StateT Reading (Except Refusal)

namespace Reader

def position : Reader Nat := return (← get).position

def fail {α : Type} (cause : Cause) (back : Nat := 0) : Reader α := do
  throw (.malformed cause (some ((← get).position - back)))

def peek : Reader (Option Symbol) := do
  match (← get).rest with
  | [] => return none
  | .dangling :: _ => fail .danglingEscape
  | s :: _ => return some s

def take : Reader (Option Symbol) := do
  match ← peek with
  | none => return none
  | some s =>
    modify fun r => { r with rest := r.rest.tail, position := r.position + s.size }
    let _ ← peek
    return some s

def accept (c : Char) : Reader Bool := do
  if (← peek) = some (.char c) then
    let _ ← take
    return true
  return false

def takeWhile (p : Char → Bool) : Nat → Reader (List Char)
  | 0 => return []
  | n + 1 => do
    match ← peek with
    | some (.char c) =>
      if p c then
        let _ ← take
        return c :: (← takeWhile p n)
      return []
    | _ => return []

def takeName (terminator : Char) (what : String) : Reader (List Char) := do
  go (← get).rest.length.succ []
where
  go : Nat → List Char → Reader (List Char)
    | 0, _ => fail (.missing what)
    | n + 1, name => do
      match ← take with
      | none =>
        if name.isEmpty then fail (.missing what)
        else fail (.unterminatedName terminator) name.length
      | some s =>
        if s = .char terminator then
          if name.isEmpty then fail (.missing what) 1 else return name
        else go n (name ++ s.text)

def groupCount : Reader Nat := return (← get).groups.length + 1

def openGroup (name : Option (List Char)) : Reader Nat := do
  let number ← groupCount
  match name with
  | none => modify fun r => { r with groups := r.groups ++ [none] }
  | some name =>
    match (← get).names.lookup name with
    | some previous => fail (.redefinition name number previous) (name.length + 1)
    | none =>
      modify fun r => { r with groups := r.groups ++ [none], names := (name, number) :: r.names }
  return number

def widthOf (groups : List (Option Width)) (number : Nat) : Width :=
  ((groups[number - 1]?).join).getD ⟨0, 0⟩

def closeGroup (number : Nat) (body : List Node) : Reader Unit :=
  modify fun r => { r with
    groups := r.groups.set (number - 1) (some (Node.sequenceWidth (widthOf r.groups) body)) }

def isClosed (number : Nat) : Reader Bool :=
  return ((← get).groups[number - 1]?).join.isSome

def checkBehind (number : Nat) : Reader Unit := do
  match (← get).behind with
  | none => return
  | some first =>
    if !(← isClosed number) then fail .openGroup
    if first ≤ number then fail .groupBehind

end Reader

end DocStore.Pattern
