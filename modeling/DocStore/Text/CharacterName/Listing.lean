import DocStore.Text.Hex

/-!
This module contains the listings that names of characters are kept in. A listing is a text of
entries between semicolons or ends of lines. An entry with a colon is the number of the next
character, in hexadecimal digits; other entries name one character after the other, each by the
number of the words that it shares with the name before it and by the words that follow.
-/

namespace DocStore.Text.CharacterName

def parts (isSeparator : Char → Bool) (s : List Char) : List (List Char) :=
  s.foldr step [[]]
where
  step (c : Char) : List (List Char) → List (List Char)
    | [] => [[c]]
    | p :: ps => if isSeparator c then [] :: p :: ps else (c :: p) :: ps

def words (name : List Char) : List (List Char) :=
  if name.isEmpty then [] else parts (· = ' ') name

def entries (listing : String) : List (List Char) :=
  (parts (fun c => c = ';' ∨ c = '\n') listing.toList).map fun e => e.dropWhile (· = ' ')

def search (name : List (List Char)) (code : Nat) (last : List (List Char))
    : List (List Char) → Option Nat
  | [] => none
  | [] :: es => search name code last es
  | (':' :: digits) :: es => search name ((hexNumber? digits).getD code) last es
  | (shared :: new) :: es =>
    let this := last.take (shared.toNat - '0'.toNat) ++ words new
    if this = name then some code else search name (code + 1) this es

def find? (name : List Char) (listing : String) : Option Nat :=
  search (words name) 0 [] (entries listing)

end DocStore.Text.CharacterName
