/-!
This module contains strings of bytes written in base 64: four characters for three bytes, padded at
the end.
-/

namespace DocStore.Text

def sextetChar (n : Nat) : Char :=
  if n < 26 then Char.ofNat ('A'.toNat + n)
  else if n < 52 then Char.ofNat ('a'.toNat + (n - 26))
  else if n < 62 then Char.ofNat ('0'.toNat + (n - 52))
  else if n = 62 then '+'
  else '/'

def sextet? (c : Char) : Option Nat :=
  if 'A' ≤ c ∧ c ≤ 'Z' then some (c.toNat - 'A'.toNat)
  else if 'a' ≤ c ∧ c ≤ 'z' then some (c.toNat - 'a'.toNat + 26)
  else if '0' ≤ c ∧ c ≤ '9' then some (c.toNat - '0'.toNat + 52)
  else if c = '+' then some 62
  else if c = '/' then some 63
  else none

def base64Encode : List UInt8 → List Char
  | [] => []
  | [a] => [sextetChar (a.toNat / 4), sextetChar (a.toNat % 4 * 16), '=', '=']
  | [a, b] =>
    [sextetChar (a.toNat / 4), sextetChar (a.toNat % 4 * 16 + b.toNat / 16),
     sextetChar (b.toNat % 16 * 4), '=']
  | a :: b :: c :: rest =>
    sextetChar (a.toNat / 4) :: sextetChar (a.toNat % 4 * 16 + b.toNat / 16) ::
      sextetChar (b.toNat % 16 * 4 + c.toNat / 64) :: sextetChar (c.toNat % 64) :: base64Encode rest

inductive Base64Fault where
  | leftOver (groups : Nat)
  | padding
  deriving DecidableEq, Repr

structure Base64State where
  place : Nat := 0
  left : Nat := 0
  pads : Nat := 0
  count : Nat := 0

/--
Read base 64. Characters that are neither of the alphabet nor padding are skipped, and reading ends
with the padding that completes a group.
-/
def base64Decode (s : List Char) : Except Base64Fault (List UInt8) :=
  go {} s
where
  go (st : Base64State) : List Char → Except Base64Fault (List UInt8)
    | [] =>
      match st.place with
      | 0 => .ok []
      | 1 => .error (.leftOver (st.count / 3))
      | _ => .error .padding
    | c :: rest =>
      if c = '=' then
        if 2 ≤ st.place then
          if 4 ≤ st.place + (st.pads + 1) then .ok []
          else go { st with pads := st.pads + 1 } rest
        else go st rest
      else match sextet? c with
        | none => go st rest
        | some n =>
          match st.place with
          | 0 => go ⟨1, n, 0, st.count⟩ rest
          | 1 => emit (st.left * 4 + n / 16) (go ⟨2, n % 16, 0, st.count + 1⟩ rest)
          | 2 => emit (st.left * 16 + n / 4) (go ⟨3, n % 4, 0, st.count + 1⟩ rest)
          | _ => emit (st.left * 64 + n) (go ⟨0, 0, 0, st.count + 1⟩ rest)
  emit (n : Nat) (rest : Except Base64Fault (List UInt8)) : Except Base64Fault (List UInt8) :=
    rest.map (UInt8.ofNat n :: ·)

end DocStore.Text
