import DocStore.Proofs.Engine.Stored
import DocStore.Proofs.Extended.Refused

/-!
This module contains the proof of what comes of any bytes that stand in the file of a collection:
documents, a fault of the file, or one of the faults that are not told as those of a file. It is
about machines whose stack bounds how deep a text may nest, and about texts without what the values
leave out.
-/

namespace DocStore

open Work

namespace Json

/--
How deep the brackets of a text nest that stand outside its quotes, within a number of brackets.
-/
def nesting : (depth : Nat) → (quoted : Bool) → List Char → Nat
  | depth, true, '\\' :: _ :: s => nesting depth true s
  | depth, quoted, '"' :: s => nesting depth (!quoted) s
  | depth, true, _ :: s => nesting depth true s
  | depth, false, c :: s =>
    if c = '[' ∨ c = '\x7b' then max (depth + 1) (nesting (depth + 1) false s)
    else if c = ']' ∨ c = '\x7d' then nesting (depth - 1) false s
    else nesting depth false s
  | _, _, [] => 0

def trees (s : List Char) : List Json :=
  match read s with
  | .ok j => [j]
  | .error refusal => refusal.complete

end Json

namespace Extended

end Extended

namespace Collection

/-- Bytes whose reader ends with an error that is not told as a fault of the file. -/
inductive Escapes (bs : List UInt8) (ids : IdSupply) : Error → Prop where
  | notText (h : String.fromUTF8? ⟨bs.toArray⟩ = none) : Escapes bs ids (.fault .notUtf8)
  | value {s fs e} (text : String.fromUTF8? ⟨bs.toArray⟩ = some s)
      (full : (Content.unifyLines s.toList).all Text.isBlank = false)
      (refused : Extended.FirstRefused (.array (Json.trees (Content.unifyLines s.toList))) ids fs e)
      (escapes : Extended.Escapes fs e) : Escapes bs ids (Error.ofDecodeFault e)

end Collection

end DocStore
