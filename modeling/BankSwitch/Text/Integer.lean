import BankSwitch.Text.Basic

/-!
# Reading integers

Integers as a person types them: an optional sign, an optional base mark (`0x`, `0o`, `0b` in
either case), digits of any script, single underscores between digits, white space around the
whole.  Without a mark the base is ten and a leading zero is allowed for zero alone.  In base ten there
may be no more digits than the host reads.
-/

namespace BankSwitch.IntegerText

/-- why a text gives no integer -/
inductive Fault where
  /-- it is none in that base; base zero stands for a base read off the text -/
  | malformed (base : Nat) (text : String)
  | long (fault : LongDecimal)
  deriving DecidableEq

/-- at most this many characters of a malformed text are shown -/
def shownLength : Nat := 200

def Fault.message : Fault → String
  | .malformed base text =>
    s!"invalid literal for int() with base {base}: " ++
      String.ofList ((quoted text).toList.take shownLength)
  | .long fault => fault.message

/-- white space that may stand around an integer in plain ASCII -/
def isBlank (c : Char) : Bool := c = ' ' || (0x09 ≤ c.toNat && c.toNat ≤ 0x0d)

/-- decimal digits of any script become ASCII digits and white space becomes a space; ASCII text
is left alone -/
def plain (s : List Char) : List Char :=
  if s.all CharClass.isAscii then s
  else s.map fun c =>
    if c.toNat < 0x7f then c
    else if CharClass.isSpace c then ' '
    else match CharClass.decimalValue? c with
      | some d => Char.ofNat ('0'.toNat + d)
      | none => '?'

/-- digits below `base`, single underscores allowed between them; the value and what is left -/
def digits (base : Nat) : List Char → Nat → Nat × List Char
  | '_' :: c :: r, acc =>
    match CharClass.digitValue? c with
    | some d => if d < base then digits base r (acc * base + d) else (acc, '_' :: c :: r)
    | none => (acc, '_' :: c :: r)
  | c :: r, acc =>
    match CharClass.digitValue? c with
    | some d => if d < base then digits base r (acc * base + d) else (acc, c :: r)
    | none => (acc, c :: r)
  | [], acc => (acc, [])

/-- a digit, then as many more as follow -/
def natural (base : Nat) : List Char → Option (Nat × List Char)
  | c :: r =>
    match CharClass.digitValue? c with
    | some d => if d < base then some (digits base r d) else none
    | none => none
  | [] => none

/-- drops a base mark, and one underscore behind it -/
def dropMark (mark : Char) : List Char → List Char
  | '0' :: m :: r =>
    if m.toLower = mark then (match r with | '_' :: r' => r' | r => r) else '0' :: m :: r
  | s => s

/-- the mark of a base that has one -/
def markOf (base : Nat) : Char :=
  if base = 16 then 'x' else if base = 8 then 'o' else if base = 2 then 'b' else '0'

/-- the base that unsigned text announces, and whether only zero may follow -/
def announced : List Char → Nat × Bool
  | '0' :: m :: _ =>
    if m.toLower = 'x' then (16, false)
    else if m.toLower = 'o' then (8, false)
    else if m.toLower = 'b' then (2, false)
    else (10, true)
  | '0' :: [] => (10, true)
  | _ => (10, false)

/-- the digits in front of `rest`, if they are those of a decimal that is too long; an underscore that
no digit follows is found before that -/
def tooLong? (limit : Option Nat) (base : Nat) (body rest : List Char) : Option LongDecimal :=
  if base = 10 && rest.head? ≠ some '_' then
    LongDecimal.of? limit ((body.take (body.length - rest.length)).filter (· ≠ '_')).length
  else none

/-- an unsigned integer up to the white space that ends it, or the decimal that was too long to go
on -/
def unsigned (limit : Option Nat) (base : Nat) (s : List Char) : Except (Option LongDecimal) Nat :=
  let (b, onlyZero) := if base = 0 then announced s else (base, false)
  let body := if b = 10 then s else dropMark (markOf b) s
  match natural b body with
  | none => .error none
  | some (n, rest) =>
    match tooLong? limit b body rest with
    | some fault => .error (some fault)
    | none => if rest.all isBlank && (n = 0 || !onlyZero) then .ok n else .error none

/-- an integer in base `base`, white space around it allowed -/
def readIn (limit : Option Nat) (base : Nat) (text : String) : Except Fault Int :=
  let found : Except (Option LongDecimal) Int := match (plain text.toList).dropWhile isBlank with
    | '-' :: r => (unsigned limit base r).map fun n => -(n : Int)
    | '+' :: r => (unsigned limit base r).map fun n => (n : Int)
    | r => (unsigned limit base r).map fun n => (n : Int)
  found.mapError fun fault => (fault.map Fault.long).getD (.malformed base text)

/-- an integer whose base is read off its mark -/
def read (limit : Option Nat) (text : String) : Except Fault Int := readIn limit 0 text

/-- an integer whose base sixteen may also be marked as descriptions mark it, by `#x` -/
def readNumeral (limit : Option Nat) (text : String) : Except Fault Int :=
  match text.toList with
  | '#' :: 'x' :: r => read limit (String.ofList ('0' :: 'x' :: r))
  | _ => read limit text

end BankSwitch.IntegerText
