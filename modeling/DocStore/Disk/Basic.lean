/-!
This module contains a directory of files, whose uses can fail.
-/

namespace DocStore

inductive Content where
  | text (s : List Char)
  | bytes (bs : List UInt8)
  deriving DecidableEq, Repr

namespace Content

def ofBytes (bs : List UInt8) : Content :=
  match String.fromUTF8? ⟨bs.toArray⟩ with
  | some s => .text s.toList
  | none => .bytes bs

def unifyLines : List Char → List Char
  | [] => []
  | '\r' :: '\n' :: s => '\n' :: unifyLines s
  | c :: s => (if c = '\r' then '\n' else c) :: unifyLines s

end Content

inductive Entry where
  | file (content : Content)
  | directory
  deriving DecidableEq, Repr

inductive FileName where
  | given (name : String)
  | temporary (base : String) (number : Nat)
  deriving DecidableEq, Repr

namespace FileName

/-- The text of a name. The letters that tell temporary files apart are shown as a star. -/
def text : FileName → String
  | .given name => name
  | .temporary base _ => s!".tmp_{base}_*.tmp"

end FileName

inductive FileUse where
  | makeDirectories
  | makeTemporary
  | openTemporary
  | sync
  | replace
  | remove
  deriving DecidableEq, Repr

/-- How often a use of the file system fails from now on, and what is said of it. -/
structure Trouble where
  times : Nat
  text : String
  deriving DecidableEq, Repr

structure Disk where
  root : String
  entries : List (FileName × Entry) := []
  troubles : List (FileUse × Trouble) := []
  made : Nat := 0
  deriving Repr

namespace Disk

def get? (d : Disk) (name : FileName) : Option Entry := d.entries.lookup name

def contains (d : Disk) (name : FileName) : Bool := (d.get? name).isSome

def put (d : Disk) (name : FileName) (e : Entry) : Disk :=
  { d with entries :=
      if d.contains name then d.entries.map fun f => if f.1 = name then (name, e) else f
      else d.entries ++ [(name, e)] }

def erase (d : Disk) (name : FileName) : Disk :=
  { d with entries := d.entries.filter fun f => f.1 ≠ name }

def path (d : Disk) (name : FileName) : String := s!"{d.root}/{name.text}"

def trouble (d : Disk) (u : FileUse) (t : Trouble) : Disk :=
  { d with troubles := (u, t) :: d.troubles.filter fun f => f.1 ≠ u }

def use (d : Disk) (u : FileUse) : Option String × Disk :=
  match d.troubles.lookup u with
  | some ⟨n + 1, text⟩ => (some text, d.trouble u ⟨n, text⟩)
  | _ => (none, d)

end Disk

end DocStore
