import BankSwitch.Text.CharClass.Letters
import BankSwitch.Text.CharClass.Numerals
import BankSwitch.Text.CharClass.Unprintable

/-!
# Character classes

Letters, numerals, white space and printable characters of Unicode 14.  ASCII is decided by
arithmetic on the code point, the rest by the range tables.
-/

namespace BankSwitch.CharClass

/-- membership in a list of inclusive ranges -/
def inRanges (rs : List (Nat × Nat)) (n : Nat) : Bool :=
  rs.any fun r => decide (r.1 ≤ n) && decide (n ≤ r.2)

def isAscii (c : Char) : Bool := decide (c.toNat < 0x80)

/-- a letter of any script -/
def isLetter (c : Char) : Bool :=
  if isAscii c then c.isAlpha else inRanges letterRanges c.toNat

/-- a letter, or a character with a decimal, digit or numeric value -/
def isAlphanumeric (c : Char) : Bool :=
  if isAscii c then c.isAlphanum
  else inRanges letterRanges c.toNat || inRanges numeralRanges c.toNat

/-- a character that is shown as it is in quoted text -/
def isPrintable (c : Char) : Bool :=
  if isAscii c then decide (0x20 ≤ c.toNat) && decide (c.toNat < 0x7f)
  else !inRanges unprintableRanges c.toNat

/-- white space of any kind, the four ASCII separators included -/
def isSpace (c : Char) : Bool :=
  inRanges [(0x09, 0x0d), (0x1c, 0x20), (0x85, 0x85), (0xa0, 0xa0), (0x1680, 0x1680),
    (0x2000, 0x200a), (0x2028, 0x2029), (0x202f, 0x202f), (0x205f, 0x205f), (0x3000, 0x3000)]
    c.toNat

/-- the value of a decimal digit of any script -/
def decimalValue? (c : Char) : Option Nat :=
  if isAscii c then if c.isDigit then some (c.toNat - '0'.toNat) else none
  else (decimalRanges.find? fun r => decide (r.1 ≤ c.toNat) && decide (c.toNat ≤ r.2)).map
    fun r => (c.toNat - r.1) % 10

/-- the value of an ASCII letter or digit as a digit: `0` to `9`, then `a` to `z` in either case -/
def digitValue? (c : Char) : Option Nat :=
  if c.isDigit then some (c.toNat - '0'.toNat)
  else if c.isLower then some (c.toNat - 'a'.toNat + 10)
  else if c.isUpper then some (c.toNat - 'A'.toNat + 10)
  else none

def isHexDigit (c : Char) : Bool :=
  match digitValue? c with
  | some d => decide (d < 16)
  | none => false

end BankSwitch.CharClass
