import DocStore.Pattern.Escape

/-!
This module contains the classes of characters in brackets.
-/

namespace DocStore.Pattern

def classOf (negated : Bool) (items : List ClassItem) : Node :=
  match items.eraseDups with
  | [.char c] => .char negated c
  | items => .charClass negated items

namespace Reader

def classItem (s : Symbol) : Reader ClassItem := do
  match s with
  | .escape c => classEscape c
  | .char c => return .char c.toNat
  | .dangling => return .char 92

def takeInClass (start : Nat) : Reader Symbol := do
  match ← take with
  | some s => return s
  | none => fail .unterminatedClass ((← position) - start)

def classItems (start : Nat) : Nat → List ClassItem → Reader (List ClassItem)
  | 0, _ => fail .unterminatedClass
  | n + 1, items => do
    let first ← takeInClass start
    if first = .char ']' && !items.isEmpty then return items
    let item ← classItem first
    if !(← accept '-') then return ← classItems start n (items ++ [item])
    let last ← takeInClass start
    if last = .char ']' then return items ++ [item, .char '-'.toNat]
    match item, ← classItem last with
    | .char a, .char b =>
      if b < a then fail (.range first.text last.text) (first.size + 1 + last.size)
      classItems start n (items ++ [.range a b])
    | _, _ => fail (.range first.text last.text) (first.size + 1 + last.size)

def charClass : Reader Node := do
  let start := (← position) - 1
  let negated ← accept '^'
  let items ← classItems start (← get).rest.length.succ []
  return classOf negated items

end Reader

end DocStore.Pattern
