import DocStore.Pattern.Escape
import DocStore.Text.Name

/-!
This module contains the beginnings of groups: names, options and conditions.
-/

namespace DocStore.Pattern

inductive Opening where
  | plain
  | named (name : List Char)
  | atomic
  | options (on off : Flags)
  | wholeOptions (on : Flags)
  | look (behind negated : Bool)
  | condition (group : Nat)
  | reference (group : Nat)
  | comment

namespace Reader

def optionsOf (s : Option Symbol) : Option Flags :=
  match s with
  | some (.char c) => Flags.ofSourceLetter? c
  | _ => none

def failOption {α : Type} (s : Symbol) (otherwise : Cause) : Reader α :=
  match s with
  | .char c => fail (if Text.isLetter c then .unknownFlag else otherwise) 1
  | s => fail otherwise s.size

def optionsOn : Nat → Symbol → Flags → Reader (Flags × Char)
  | 0, _, _ => fail .missingFlagEnd
  | n + 1, s, on => do
    match optionsOf (some s) with
    | none =>
      match s with
      | .char ')' => return (on, ')')
      | .char '-' => return (on, '-')
      | .char ':' => return (on, ':')
      | s => failOption s .missingFlagEnd
    | some f =>
      if s = .char 'L' then fail .localeFlag
      let on := on.union f
      if f.hasAlphabet && on.ascii && on.unicode then fail .flagConflict
      match ← take with
      | none => fail .missingFlagEnd
      | some s => optionsOn n s on

def optionsOff : Nat → Symbol → Flags → Reader Flags
  | 0, _, _ => fail .missingColon
  | n + 1, s, off => do
    match optionsOf (some s) with
    | none => if s = .char ':' then return off else failOption s .missingColon
    | some f =>
      if s = .char 'L' || f.hasAlphabet then fail .alphabetOff
      match ← take with
      | none => fail .missingColon
      | some s => optionsOff n s (off.union f)

def options (first : Char) : Reader Opening := do
  let n := (← get).rest.length + 1
  let (on, last) ← if first = '-' then pure ({}, '-') else optionsOn n (.char first) {}
  if last = ')' then return .wholeOptions on
  if on.template then fail .globalOn 1
  let off : Flags ←
    if last = '-' then
      match ← take with
      | none => fail .missingFlag
      | some s =>
        if (optionsOf (some s)).isNone then failOption s .missingFlag
        optionsOff n s {}
    else pure {}
  if off.template then fail .globalOff 1
  if on.without (on.without off) ≠ {} then fail .onAndOff 1
  return .options on off

def takeGroupName (terminator : Char) : Reader (List Char) := do
  let name ← takeName terminator "group name"
  if !Text.isName name then fail (.groupName name) (name.length + 1)
  return name

def groupNamed (name : List Char) : Reader Nat := do
  match (← get).names.lookup name with
  | some number => return number
  | none => fail (.unknownGroup name) (name.length + 1)

def groupLimit : Nat := 1073741823

def condition : Reader Nat := do
  let name ← takeName ')' "group name"
  let number ←
    if Text.isName name then groupNamed name
    else
      match Numeral.readInteger name with
      | .value n =>
        if n < 0 then fail (.groupName name) (name.length + 1)
        if n = 0 then fail .groupNumber (name.length + 1)
        let number := n.toNat
        if groupLimit ≤ number then fail (.noGroup number) (name.length + 1)
        if ((← get).asked.lookup number).isNone then
          let place := (← position) - name.length - 1
          modify fun r => { r with asked := r.asked ++ [(number, place)] }
        pure number
      | _ => fail (.groupName name) (name.length + 1)
  checkBehind number
  return number

def opening (start : Nat) : Reader Opening := do
  match ← take with
  | none => fail .endOfPattern
  | some (.char 'P') =>
    if ← accept '<' then return .named (← takeGroupName '>')
    if ← accept '=' then
      let name ← takeGroupName ')'
      let number ← groupNamed name
      if !(← isClosed number) then fail .openGroup (name.length + 1)
      checkBehind number
      return .reference number
    match ← take with
    | none => fail .endOfPattern
    | some s => fail (.extension ('?' :: 'P' :: s.text)) (s.size + 2)
  | some (.char ':') => return .plain
  | some (.char '#') =>
    comment start (← get).rest.length.succ
    return .comment
  | some (.char '=') => return .look false false
  | some (.char '!') => return .look false true
  | some (.char '<') =>
    match ← take with
    | none => fail .endOfPattern
    | some (.char '=') => return .look true false
    | some (.char '!') => return .look true true
    | some s => fail (.extension ('?' :: '<' :: s.text)) (s.size + 2)
  | some (.char '(') => return .condition (← condition)
  | some (.char '>') => return .atomic
  | some s =>
    match s with
    | .char c =>
      if c = '-' || (Flags.ofSourceLetter? c).isSome then options c
      else fail (.extension ['?', c]) 2
    | s => fail (.extension ('?' :: s.text)) (s.size + 1)
where
  comment (start : Nat) : Nat → Reader Unit
    | 0 => fail .unterminatedComment
    | n + 1 => do
      match ← take with
      | none => fail .unterminatedComment ((← position) - start)
      | some (.char ')') => return
      | some _ => comment start n

end Reader

end DocStore.Pattern
