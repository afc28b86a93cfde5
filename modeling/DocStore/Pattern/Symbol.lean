/-!
This module contains the symbols of the source of a regular expression: characters, and pairs of a
backslash and a character.
-/

namespace DocStore.Pattern

inductive Symbol where
  | char (c : Char)
  | escape (c : Char)
  | dangling
  deriving DecidableEq, Repr

namespace Symbol

def text : Symbol → List Char
  | .char c => [c]
  | .escape c => ['\\', c]
  | .dangling => ['\\']

def size (s : Symbol) : Nat := s.text.length

def ofSource : List Char → List Symbol
  | [] => []
  | c :: cs =>
    if c = '\\' then
      match cs with
      | [] => [.dangling]
      | d :: ds => .escape d :: ofSource ds
    else .char c :: ofSource cs

end Symbol

end DocStore.Pattern
