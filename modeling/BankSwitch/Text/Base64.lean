/-!
# Base 64

Bytes written with four characters of six bits for every three bytes.  Characters outside the
alphabet do not count; padding is needed, and reading stops where it completes a group.
-/

namespace BankSwitch.Base64

/-- the six bits of a character -/
def sextet? (c : Char) : Option Nat :=
  if c.isUpper then some (c.toNat - 'A'.toNat)
  else if c.isLower then some (c.toNat - 'a'.toNat + 26)
  else if c.isDigit then some (c.toNat - '0'.toNat + 52)
  else if c = '+' then some 62
  else if c = '/' then some 63
  else none

/-- a group of up to four characters, the last one first -/
structure Group where
  /-- how many characters were read -/
  count : Nat
  /-- the bits that make up no byte yet -/
  bits : Nat
  /-- how many padding characters followed the last of them -/
  padding : Nat

/-- adds six bits to a group, which may complete a byte -/
def Group.add (g : Group) (v : Nat) : Group × List Nat :=
  match g.count with
  | 0 => (⟨1, v, 0⟩, [])
  | 1 => (⟨2, v % 16, 0⟩, [g.bits * 4 + v / 16])
  | 2 => (⟨3, v % 4, 0⟩, [g.bits * 16 + v / 4])
  | _ => (⟨0, 0, 0⟩, [g.bits * 64 + v])

/-- the bytes from a group onwards; nothing if the last group is not complete -/
def bytesFrom (g : Group) : List Char → Option (List Nat)
  | [] => if g.count = 0 then some [] else none
  | c :: r =>
    if c = '=' then
      let g' := if 2 ≤ g.count then { g with padding := g.padding + 1 } else g
      if 2 ≤ g.count && 4 ≤ g.count + g'.padding then some [] else bytesFrom g' r
    else match sextet? c with
      | none => bytesFrom g r
      | some v =>
        let (g', new) := g.add v
        (bytesFrom g' r).map (new ++ ·)

/-- the bytes that a text stands for -/
def bytes? (s : List Char) : Option (List Nat) := bytesFrom ⟨0, 0, 0⟩ s

end BankSwitch.Base64
