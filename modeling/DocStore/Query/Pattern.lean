import DocStore.Error
import DocStore.Identifier
import DocStore.Pattern.Search
import DocStore.Value.Sequence

/-!
This module contains the regular expressions of queries: the pattern is a value, and the options are
letters.
-/

namespace DocStore

namespace Value

def optionFlags (v : Value) : Except Error Pattern.Flags :=
  if !v.isHashable then .error (.fault .wrongKind)
  else match v with
    | .text s => .ok (match s.toList with
      | [c] => .ofLetter c
      | _ => {})
    | _ => .ok {}

def patternFlags (options : Value) : Except Error Pattern.Flags :=
  if !options.isTruthy then .ok {}
  else do
    let letters ← options.items.mapError .fault
    let flags ← letters.mapM optionFlags
    return flags.foldl .union {}

def toRegex (pattern options : Value) : Except Error Pattern.Regex :=
  match pattern with
  | .regex source flags => (Pattern.compile source.toList flags).mapError fun _ => .fault .badValue
  | pattern => do
    let flags ← options.patternFlags
    match pattern.plain? with
    | none => throw (.fault .badValue)
    | some source =>
      match Pattern.compile source flags with
      | .ok r => return r
      | .error .rounds => throw (.fault .outOfRange)
      | .error .digits => throw (.fault .badValue)
      | .error .flags => throw (.fault .badValue)
      | .error .distance => throw (.fault .tooFar)
      | .error (.malformed cause position) =>
        throw (.argument (.pattern pattern (String.ofList (cause.messageAt source position))))

def searchText (v : Value) : Except Error (List Char) :=
  match v with
  | .bool b => .ok (if b then "true" else "false").toList
  | v =>
    match v.normalizeId.plain? with
    | some s => .ok s
    | none => .error (.fault .badValue)

end Value

def patternMatches (v pattern options : Value) : Except Error Bool :=
  match v with
  | .null => .ok false
  | v => do
    let text ← v.searchText
    let r ← pattern.toRegex options
    (r.occursIn text).mapError .fault

end DocStore
