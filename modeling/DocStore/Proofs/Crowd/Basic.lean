import Mathlib.Logic.Function.Basic
import DocStore.Proofs.Engine.Growth

/-!
This module contains callers of one engine whose steps interleave. A caller begins its request,
draws a ticket for the slot of the collection, goes on when the ticket is served, changes the
memory, writes the file, and gives the slot back. Which caller takes the next step is up to a
schedule.
-/

namespace DocStore

/--
A caller: its request, what the clock shows in its turn, the identifiers that it is handed before
and in its turn, and the uses of the file system that fail from its turn on.
-/
structure Caller where
  request : Request
  clock : Clock := .epoch
  early : IdSupply := {}
  late : IdSupply := {}
  fails : List (FileUse × Trouble) := []

namespace Caller

def atCall (c : Caller) (e : Engine) : Engine := { e with ids := c.early }

def atTurn (c : Caller) (e : Engine) : Engine :=
  { e with ids := c.late, disk := c.fails.foldl (fun d f => d.trouble f.1 f.2) e.disk }

def alone (c : Caller) : Action Answer := fun e =>
  match Engine.begin c.request (c.atCall e) with
  | (.error err, e) => (.error err, e)
  | (.ok (.answered a), e) => (.ok a, e)
  | (.ok (.waits i t), e) => Engine.serve c.clock.now i t (c.atTurn (Engine.enqueue i e).2)

end Caller

inductive Stage where
  | called
  | ready (place : Nat) (turn : Turn)
  | queued (place : Nat) (turn : Turn) (ticket : Nat)
  | entered (place : Nat) (turn : Turn) (ticket : Nat)
  | changed (place : Nat) (ticket : Nat) (a : Answer)
  | served (place : Nat) (ticket : Nat) (r : Except Error Answer)
  | done (r : Except Error Answer)

namespace Stage

def begun : Except Error Start → Stage
  | .error err => .done (.error err)
  | .ok (.answered a) => .done (.ok a)
  | .ok (.waits i t) => .ready i t

def turned (i k : Nat) : Except Error (Answer × Bool) → Stage
  | .error err => .served i k (.error err)
  | .ok (a, false) => .served i k (.ok a)
  | .ok (a, true) => .changed i k a

def place? : Stage → Option Nat
  | .ready i _ => some i
  | .queued i _ _ => some i
  | .entered i _ _ => some i
  | .changed i _ _ => some i
  | .served i _ _ => some i
  | _ => none

def ticket? : Stage → Option Nat
  | .queued _ _ k => some k
  | .entered _ _ k => some k
  | .changed _ k _ => some k
  | .served _ k _ => some k
  | _ => none

def held? : Stage → Option Nat
  | .entered _ _ k => some k
  | .changed _ k _ => some k
  | .served _ k _ => some k
  | _ => none

def turn? : Stage → Option Turn
  | .ready _ t => some t
  | .queued _ t _ => some t
  | .entered _ t _ => some t
  | _ => none

def isAtRest : Stage → Bool
  | .called => true
  | .done _ => true
  | _ => false

def isDone : Stage → Bool
  | .done _ => true
  | _ => false

end Stage

structure Crowd (ι : Type) where
  engine : Engine
  stage : ι → Stage := fun _ => .called
  arrived : List ι := []

namespace Crowd

variable {ι : Type} [DecidableEq ι]

def go (x : Crowd ι) (c : ι) (st : Stage) (e : Engine) : Crowd ι :=
  { x with engine := e, stage := Function.update x.stage c st }

/-- The next step of a caller. A caller whose ticket is not yet served stays where it is. -/
def advance (callers : ι → Caller) (x : Crowd ι) (c : ι) : Crowd ι :=
  match x.stage c with
  | .called =>
    let (r, e) := Engine.begin (callers c).request ((callers c).atCall x.engine)
    x.go c (.begun r) e
  | .ready i t =>
    { x.go c (.queued i t (x.engine.store i).slot.draw.1) (Engine.enqueue i x.engine).2 with
      arrived := x.arrived ++ [c] }
  | .queued i t k =>
    if (x.engine.store i).slot.admits k then x.go c (.entered i t k) x.engine else x
  | .entered i (.mutate m) k =>
    let e := (callers c).atTurn x.engine
    let now := (callers c).clock.now
    x.go c (.turned i k (Engine.effectAt e now i m).outcome) (Engine.withEffect e now i m)
  | .entered i t k =>
    let (r, e) := Engine.takeTurn (callers c).clock.now i t ((callers c).atTurn x.engine)
    x.go c (.served i k r) e
  | .changed i k a =>
    let s := x.engine.store i
    let (r, disk) := Collection.save s.name s.documents x.engine.disk
    x.go c (.served i k (r.map fun _ => a)) { x.engine with disk }
  | .served i _ r => x.go c (.done r) (Engine.release i x.engine)
  | .done _ => x

section

variable {callers : ι → Caller} {x : Crowd ι} {c : ι}

theorem advance_called {r : Except Error Start} {e : Engine} (hc : x.stage c = .called)
    (hb : Engine.begin (callers c).request ((callers c).atCall x.engine) = (r, e))
    : advance callers x c = x.go c (.begun r) e := by
  unfold advance
  rw [hc]
  dsimp only
  rw [hb]

theorem advance_ready {i : Nat} {t : Turn} (hc : x.stage c = .ready i t)
    : advance callers x c
      = { x.go c (.queued i t (x.engine.store i).slot.draw.1) (Engine.enqueue i x.engine).2 with
          arrived := x.arrived ++ [c] } := by
  unfold advance
  rw [hc]

theorem advance_queued {i k : Nat} {t : Turn} (hc : x.stage c = .queued i t k)
    : advance callers x c
      = if (x.engine.store i).slot.admits k then x.go c (.entered i t k) x.engine else x := by
  unfold advance
  rw [hc]

theorem advance_entered_mutate {i k : Nat} {m : Mutation}
    (hc : x.stage c = .entered i (.mutate m) k)
    : advance callers x c
      = x.go c
          (.turned i k
            (Engine.effectAt ((callers c).atTurn x.engine) (callers c).clock.now i m).outcome)
          (Engine.withEffect ((callers c).atTurn x.engine) (callers c).clock.now i m) := by
  unfold advance
  rw [hc]

theorem advance_entered {i k : Nat} {t : Turn} (hc : x.stage c = .entered i t k)
    (ht : ∀ m, t ≠ .mutate m)
    : advance callers x c
      = x.go c
        (.served i k (Engine.takeTurn (callers c).clock.now i t ((callers c).atTurn x.engine)).1)
          (Engine.takeTurn (callers c).clock.now i t ((callers c).atTurn x.engine)).2 := by
  unfold advance
  rw [hc]
  cases t with
  | mutate m => exact absurd rfl (ht m)
  | removeFile => rfl
  | releaseAll => rfl

theorem advance_changed {i k : Nat} {a : Answer} {r : Except Error Unit} {disk : Disk}
    (hc : x.stage c = .changed i k a)
    (hs : Collection.save (x.engine.store i).name (x.engine.store i).documents x.engine.disk =
      (r, disk))
    : advance callers x c = x.go c (.served i k (r.map fun _ => a)) { x.engine with disk } := by
  unfold advance
  rw [hc]
  dsimp only
  rw [hs]

theorem advance_served {i k : Nat} {r : Except Error Answer} (hc : x.stage c = .served i k r)
    : advance callers x c = x.go c (.done r) (Engine.release i x.engine) := by
  unfold advance
  rw [hc]

theorem advance_done {r : Except Error Answer} (hc : x.stage c = .done r)
    : advance callers x c = x := by
  unfold advance
  rw [hc]

end

def run (callers : ι → Caller) (x : Crowd ι) (schedule : List ι) : Crowd ι :=
  schedule.foldl (advance callers) x

def gather (e : Engine) : Crowd ι := { engine := e }

end Crowd

end DocStore
