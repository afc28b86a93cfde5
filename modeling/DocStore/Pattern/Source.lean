import DocStore.Pattern.Branch
import DocStore.Pattern.CharClass
import DocStore.Pattern.Group

/-!
This module contains the reader of the source of a regular expression.
-/

namespace DocStore.Pattern

namespace Greed

def operatorName : Greed → String
  | .greedy => "MAX_REPEAT"
  | .lazy => "MIN_REPEAT"
  | .possessive => "POSSESSIVE_REPEAT"

end Greed

def isSkipped (c : Char) : Bool := [9, 10, 11, 12, 13, 32].contains c.toNat

def roundLimit : Nat := 4294967295

namespace Reader

def lineComment : Reader Unit := do
  go (← get).rest.length.succ
where
  go : Nat → Reader Unit
    | 0 => return
    | n + 1 => do
      match ← take with
      | none => return
      | some (.char '\n') => return
      | some _ => go n

def roundNumber? (digits : List Char) : Reader (Option Nat) := do
  if digits.isEmpty then return none
  if Numeral.maxDigits < digits.length then throw .digits
  let n := numberOf 10 digits
  if roundLimit ≤ n then throw .rounds
  return some n

/-- The bounds of a repetition in braces. Without a closing brace the opening one is a character. -/
def bounds : Reader (Option (Nat × Option Nat)) := do
  let start ← get
  if (← peek) = some (.char '\x7d') then return none
  let n := start.rest.length
  let low ← takeWhile Char.isDigit n
  let high ← if ← accept ',' then takeWhile Char.isDigit n else pure low
  if !(← accept '\x7d') then
    set start
    return none
  let least := (← roundNumber? low).getD 0
  let most ← roundNumber? high
  if most.any (· < least) then fail .repeatOrder ((← position) - start.position)
  return some (least, most)

def greed : Reader Greed := do
  if ← accept '?' then return .lazy
  if ← accept '+' then return .possessive
  return .greedy

def repetition (start : Nat) (least : Nat) (most : Option Nat) (nodes : List Node)
    : Reader (List Node) := do
  let back := (← position) - start
  match nodes with
  | [] => fail .nothingToRepeat back
  | node :: before =>
    if node.isAnchor then fail .nothingToRepeat back
    if node.isRepetition then fail .multipleRepeat back
    let greed ← greed
    return .repetition least most greed (node.plainBody?.getD [node]) :: before

def step (start : Nat) (c : Char) (nodes : List Node) : Reader (List Node) := do
  match c with
  | '[' => return (← charClass) :: nodes
  | '.' => return .any :: nodes
  | '^' => return .anchor .lineStart :: nodes
  | '$' => return .anchor .lineEnd :: nodes
  | '*' => repetition start 0 none nodes
  | '+' => repetition start 1 none nodes
  | '?' => repetition start 0 (some 1) nodes
  | '\x7b' =>
    match ← bounds with
    | none => return .char false c.toNat :: nodes
    | some (least, most) => repetition start least most nodes
  | c => return .char false c.toNat :: nodes

def close (start : Nat) : Reader Unit := do
  if !(← accept ')') then fail .unterminatedGroup ((← position) - start)

def inOrder (nodes : List Node) : List Node :=
  nodes.reverse.flatMap fun n => n.plainBody?.getD [n]

mutual

def alternation : Nat → Bool → Bool → Reader (List Node)
  | 0, _, _ => fail .endOfPattern
  | n + 1, verbose, top => do
    let first ← sequence n verbose top []
    let others ← branches n verbose top
    return joinBranches (first :: others)

def branches : Nat → Bool → Bool → Reader (List (List Node))
  | 0, _, _ => return []
  | n + 1, verbose, top => do
    if ← accept '|' then
      let whole := (← get).flags
      let verbose := if top then whole.verbose else verbose
      let nodes ← sequence n verbose false []
      return nodes :: (← branches n verbose top)
    return []

def sequence : Nat → Bool → Bool → List Node → Reader (List Node)
  | 0, _, _, _ => fail .endOfPattern
  | n + 1, verbose, first, nodes => do
    let start ← position
    match ← peek with
    | none => return inOrder nodes
    | some (.char '|') => return inOrder nodes
    | some (.char ')') => return inOrder nodes
    | some s =>
      let _ ← take
      match s with
      | .escape c =>
        let node ← escape c
        sequence n verbose first (node :: nodes)
      | .dangling => fail .danglingEscape
      | .char c =>
        if verbose && isSkipped c then sequence n verbose first nodes
        else if verbose && c = '#' then
          lineComment
          sequence n verbose first nodes
        else if c = '(' then group n verbose first start nodes
        else do
          let nodes ← step start c nodes
          sequence n verbose first nodes

/-- Read a group whose parenthesis has been taken, and what follows it. -/
def group : Nat → Bool → Bool → Nat → List Node → Reader (List Node)
  | 0, _, _, _, _ => fail .endOfPattern
  | n + 1, verbose, first, start, nodes => do
    let kind ← if ← accept '?' then some <$> opening start else pure none
    match kind with
    | none =>
      let number ← openGroup none
      capture n verbose first start nodes number
    | some (.named name) =>
      let number ← openGroup (some name)
      capture n verbose first start nodes number
    | some .plain =>
      let body ← alternation n verbose false
      close start
      sequence n verbose first (.group none {} {} body :: nodes)
    | some .atomic =>
      let body ← alternation n verbose false
      close start
      sequence n verbose first (.atomic body :: nodes)
    | some (.options on off) =>
      let body ← alternation n ((verbose || on.verbose) && !off.verbose) false
      close start
      sequence n verbose first (.group none on off body :: nodes)
    | some (.wholeOptions on) =>
      modify fun r => { r with flags := r.flags.union on }
      if !first || !nodes.isEmpty then fail .lateFlags ((← position) - start)
      sequence n (← get).flags.verbose first nodes
    | some (.look behind negated) =>
      let outer := (← get).behind
      if behind && outer.isNone then
        let count ← groupCount
        modify fun r => { r with behind := some count }
      let body ← alternation n verbose false
      if behind then modify fun r => { r with behind := outer }
      close start
      sequence n verbose first (.look behind negated body :: nodes)
    | some (.condition number) =>
      let yes ← sequence n verbose false []
      let no ← if ← accept '|' then sequence n verbose false [] else pure []
      if (← peek) = some (.char '|') then fail .manyBranches
      close start
      sequence n verbose first (.conditional number yes no :: nodes)
    | some (.reference number) => sequence n verbose first (.reference number :: nodes)
    | some .comment => sequence n verbose first nodes

def capture : Nat → Bool → Bool → Nat → List Node → Nat → Reader (List Node)
  | 0, _, _, _, _, _ => fail .endOfPattern
  | n + 1, verbose, first, start, nodes, number => do
    let body ← alternation n verbose false
    close start
    closeGroup number body
    sequence n verbose first (.group (some number) {} {} body :: nodes)

end

def whole : Reader (List Node) := do
  let _ ← peek
  let r ← get
  let nodes ← alternation (4 * r.rest.length + 4) r.flags.verbose true
  let r ← get
  if r.flags.ascii && r.flags.unicode then throw .flags
  if (← peek).isSome then fail .unbalanced
  match r.asked.find? fun a => r.groups.length < a.1 with
  | some (number, place) => throw (.malformed (.noGroup number) (some place))
  | none => return nodes

end Reader

namespace Node

mutual

def check (template : Bool) (groups : Nat → Width) : Node → Except Cause Unit
  | .alternation bs => checkBranches template groups bs
  | .group _ _ _ ns => checkAll template groups ns
  | .atomic ns => checkAll template groups ns
  | .repetition _ _ greed ns =>
    if template then .error (.templateRepeat greed.operatorName) else checkAll template groups ns
  | .look behind _ ns =>
    let w := sequenceWidth groups ns
    if behind && w.least ≠ w.greatest then .error .variableBehind else checkAll template groups ns
  | .conditional _ yes no => do
    checkAll template groups yes
    checkAll template groups no
  | _ => .ok ()

def checkAll (template : Bool) (groups : Nat → Width) : List Node → Except Cause Unit
  | [] => .ok ()
  | n :: ns => do
    n.check template groups
    checkAll template groups ns

def checkBranches (template : Bool) (groups : Nat → Width) : List (List Node) → Except Cause Unit
  | [] => .ok ()
  | ns :: bs => do
    checkAll template groups ns
    checkBranches template groups bs

end

def stepLimit : Nat := 2 ^ 31

mutual

def looksFar (groups : Nat → Width) : Node → Bool
  | .alternation bs => anyBranchLooksFar groups bs
  | .group _ _ _ ns => anyLooksFar groups ns
  | .atomic ns => anyLooksFar groups ns
  | .repetition _ _ _ ns => anyLooksFar groups ns
  | .look behind _ ns =>
    (behind && stepLimit ≤ (sequenceWidth groups ns).least) || anyLooksFar groups ns
  | .conditional _ yes no => anyLooksFar groups yes || anyLooksFar groups no
  | _ => false

def anyLooksFar (groups : Nat → Width) : List Node → Bool
  | [] => false
  | n :: ns => n.looksFar groups || anyLooksFar groups ns

def anyBranchLooksFar (groups : Nat → Width) : List (List Node) → Bool
  | [] => false
  | ns :: bs => anyLooksFar groups ns || anyBranchLooksFar groups bs

end

end Node

structure Regex where
  source : List Char
  flags : Flags
  body : List Node
  groups : Nat → Width

def compile (source : List Char) (flags : Flags) : Except Refusal Regex := do
  let (body, r) ← Reader.whole ⟨Symbol.ofSource source, 0, flags, [], [], none, []⟩
  let groups := Reader.widthOf r.groups
  match Node.checkAll r.flags.template groups body with
  | .error cause => throw (.malformed cause none)
  | .ok () =>
    if Node.anyLooksFar groups body then throw .distance
    return ⟨source, { r.flags with unicode := !r.flags.ascii }, body, groups⟩

end DocStore.Pattern
