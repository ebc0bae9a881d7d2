import BankSwitch.Text.CharClass

/-!
# Texts in messages and files

Numbers in base sixteen, the number that digits spell, quoted text, and the line ends of files.

The host reads a decimal only up to a number of digits (`hostDigits`), whatever its value; numbers in
base sixteen it reads at any length.
-/

namespace BankSwitch

/-! ## numbers in base sixteen

The sign of a negative number stands before the base mark: minus five is `-0x5`.
-/

/-- the digits of a number in base sixteen, without a mark -/
def hexDigits (n : Nat) : String := String.ofList (Nat.toDigits 16 n)

/-- the digits of an integer in base sixteen behind its sign -/
def signedHexDigits (n : Int) : String :=
  if n < 0 then "-" ++ hexDigits n.natAbs else hexDigits n.natAbs

/-- an integer as `0x1f`, or `-0x1f` when it is negative -/
def hexText (n : Int) : String :=
  if n < 0 then "-0x" ++ hexDigits n.natAbs else "0x" ++ hexDigits n.natAbs

/-- the digits in base sixteen, filled up with zeros to `width` places -/
def paddedHexDigits (width n : Nat) : String :=
  let ds := Nat.toDigits 16 n
  String.ofList (List.replicate (width - ds.length) '0' ++ ds)

/-! ## numbers from digits -/

/-- the number that digits spell -/
def digitsValue (base : Nat) (ds : List Char) : Nat :=
  ds.foldl (fun n d => base * n + (CharClass.digitValue? d).getD 0) 0

/-- a decimal with more digits than the host reads -/
structure LongDecimal where
  digits : Nat
  /-- how many digits the host reads -/
  limit : Nat
  deriving DecidableEq

namespace LongDecimal

def message (d : LongDecimal) : String :=
  s!"Exceeds the limit ({d.limit} digits) for integer string conversion: value has " ++
    s!"{d.digits} digits; use sys.set_int_max_str_digits() to increase the limit"

/-- what is wrong with a decimal of so many digits, if the host has a limit that they exceed -/
def of? (limit : Option Nat) (digits : Nat) : Option LongDecimal :=
  match limit with
  | some limit => if limit < digits then some ⟨digits, limit⟩ else none
  | none => none

theorem of?_eq_none {limit : Option Nat} {digits : Nat} :
    of? limit digits = none ↔ ∀ l ∈ limit, digits ≤ l := by
  unfold of?
  cases limit with
  | none => simp
  | some l => simp

theorem of?_eq_some {limit : Option Nat} {digits : Nat} {fault : LongDecimal} :
    of? limit digits = some fault ↔ ∃ l, limit = some l ∧ l < digits ∧ fault = ⟨digits, l⟩ := by
  unfold of?
  cases limit with
  | none => simp
  | some l => simp [eq_comm]

end LongDecimal

/-- how many digits of a decimal the host reads -/
def hostDigits : Nat := 4300

/-! ## quoted text

Text as it is shown in messages: in single quotes, or in double quotes when it holds a single quote
and no double quote.  The quote in use and the backslash are escaped, line feeds, returns and tabs
have short escapes, and any other character without a printed form is written by its code point.
-/

/-- the quote that `s` is shown in -/
def quoteFor (s : List Char) : Char :=
  if s.contains '\'' && !s.contains '"' then '"' else '\''

/-- the escape of a character that has no printed form -/
def escapeCode (n : Nat) : String :=
  if n < 0x100 then "\\x" ++ paddedHexDigits 2 n
  else if n < 0x10000 then "\\u" ++ paddedHexDigits 4 n
  else "\\U" ++ paddedHexDigits 8 n

def escapeChar (quote c : Char) : String :=
  if c = quote || c = '\\' then String.ofList ['\\', c]
  else if c = '\n' then "\\n"
  else if c = '\r' then "\\r"
  else if c = '\t' then "\\t"
  else if CharClass.isPrintable c then c.toString
  else escapeCode c.toNat

/-- `s` in quotes -/
def quoted (s : String) : String :=
  let q := quoteFor s.toList
  q.toString ++ String.join (s.toList.map (escapeChar q)) ++ q.toString

/-- a single character in quotes -/
def quotedChar (c : Char) : String := quoted c.toString

/-! ## line ends

Text files may end lines with a carriage return, a line feed or both; all three are read as one
line feed.
-/

/-- carriage returns, alone or before a line feed, become line feeds -/
def unifyLineEnds : List Char → List Char
  | [] => []
  | '\r' :: '\n' :: r => '\n' :: unifyLineEnds r
  | '\r' :: r => '\n' :: unifyLineEnds r
  | c :: r => c :: unifyLineEnds r

/-- a file's text as the readers of this library see it -/
def readableText (s : String) : String := String.ofList (unifyLineEnds s.toList)

end BankSwitch
