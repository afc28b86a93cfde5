/-!
This module contains paths of files: texts whose parts stand between slashes.
-/

namespace DocStore.Path

def up : List Char := ['.', '.']

def isAbsolute (p : List Char) : Bool := p.head? = some '/'

def join (directory p : List Char) : List Char :=
  if isAbsolute p || directory.isEmpty then p
  else if directory.getLast? = some '/' then directory ++ p
  else directory ++ '/' :: p

def parts : List Char → List (List Char)
  | [] => [[]]
  | c :: cs =>
    match parts cs with
    | [] => [[c]]
    | p :: ps => if c = '/' then [] :: p :: ps else (c :: p) :: ps

def names (p : List Char) : List (List Char) := (parts p).filter fun s => s ≠ [] ∧ s ≠ ['.']

/-- The slashes at the beginning. Two slashes, and no more, are kept as two. -/
def root : List Char → List Char
  | '/' :: '/' :: '/' :: _ => ['/']
  | '/' :: '/' :: _ => ['/', '/']
  | '/' :: _ => ['/']
  | _ => []

def ofNames (root : List Char) (names : List (List Char)) : List Char :=
  match root ++ (names.intersperse ['/']).flatten with
  | [] => ['.']
  | p => p

def tidy (p : List Char) : List Char := ofNames (root p) (names p)

def enter (rooted : Bool) (place : List (List Char)) (name : List Char) : List (List Char) :=
  if name ≠ up then name :: place
  else match place with
    | [] => if rooted then [] else [up]
    | last :: before => if last = up then up :: place else before

def normal (p : List Char) : List Char :=
  ofNames (root p) ((names p).foldl (enter (isAbsolute p)) []).reverse

def way : (start place : List (List Char)) → List (List Char)
  | s :: start, p :: place =>
    if s = p then way start place else List.replicate (start.length + 1) up ++ p :: place
  | start, place => List.replicate start.length up ++ place

def cut (p : List Char) : List Char := (normal p).takeWhile (· ≠ '\x00')

def lastPart (p : List Char) : List Char := (parts p).getLast?.getD []

def leadingParts (p : List Char) : List (List Char) := (parts p).dropLast

/--
The way from a directory to a file, both absolute, or only the file's last part if the way begins
with two dots.
-/
def within (directory p : List Char) : List Char :=
  let way := ofNames [] (way (names (normal directory)) (names (cut p)))
  if up.isPrefixOf way then lastPart p else way

end DocStore.Path
