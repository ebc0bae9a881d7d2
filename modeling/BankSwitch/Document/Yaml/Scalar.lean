import BankSwitch.Document.Basic
import BankSwitch.Document.Yaml.Kind
import BankSwitch.Document.Yaml.Token
import BankSwitch.Number.Binary64
import BankSwitch.Text.Base64

/-!
# Scalar values

The value of a scalar of a given kind.  Underscores group the digits of numbers and do not count;
colons separate parts in base sixty; a leading zero marks base eight.
-/

namespace BankSwitch.Yaml

/-- the text without underscores -/
def ungrouped (s : List Char) : List Char := s.filter (· ≠ '_')

/-- the text is empty, or it starts with a sign; what is left behind the sign -/
def splitSign : List Char → Except Error (Bool × List Char)
  | [] => .error .emptyNumber
  | '-' :: r => .ok (true, r)
  | '+' :: r => .ok (false, r)
  | s => .ok (false, s)

def integerIn (base : Nat) (s : List Char) : Except Error Int :=
  (IntegerText.readIn (some hostDigits) base (String.ofList s)).mapError .badInteger

/-- parts in base sixty, the first the most significant -/
def sexagesimal (parts : List (List Char)) : Except Error Int := do
  let ns ← parts.mapM (integerIn 10)
  return ns.foldl (fun acc n => 60 * acc + n) 0

def unsignedInteger (s : List Char) : Except Error Int :=
  match s with
  | [] => .error .emptyNumber
  | ['0'] => .ok 0
  | '0' :: 'b' :: r => integerIn 2 r
  | '0' :: 'x' :: r => integerIn 16 r
  | '0' :: _ => integerIn 8 s
  | _ => if s.contains ':' then sexagesimal (Kind.colonParts s) else integerIn 10 s

def integerValue (text : String) : Except Error Int := do
  let (negative, s) ← splitSign (ungrouped text.toList)
  let n ← unsignedInteger s
  return if negative then -n else n

def decimalValue (s : List Char) : Except Error Binary64 :=
  match Decimal.read? (String.ofList s) with
  | some x => .ok x
  | none => .error (.badReal (String.ofList s))

def unsignedReal (s : List Char) : Except Error Binary64 :=
  if s = ".inf".toList then .ok (.infinite false)
  else if s = ".nan".toList then .ok .undefined
  else if s.contains ':' then do
    let parts ← (Kind.colonParts s).mapM decimalValue
    return .fromParts parts
  else decimalValue s

def realValue (text : String) : Except Error Binary64 := do
  let (negative, s) ← splitSign ((ungrouped text.toList).map Char.toLower)
  let x ← unsignedReal s
  return if negative then x.negate else x

def truthValue (text : String) : Except Error Bool :=
  let word := String.ofList (text.toList.map Char.toLower)
  if ["yes", "true", "on"].contains word then .ok true
  else if ["no", "false", "off"].contains word then .ok false
  else .error (.badTruth word)

def timestampValue (text : String) : Except Error Document :=
  match Timestamp.ofChars? (Kind.dropFinalBreak text.toList) with
  | none => .error .notADate
  | some t =>
    match t.objection with
    | some reason => .error (.badDate reason)
    | none => .ok (.other t.shown t.plain)

/-- bytes as messages quote them -/
def quotedBytes (bytes : List Nat) : String :=
  let cs := bytes.map Char.ofNat
  let q := quoteFor cs
  let escape (c : Char) : String :=
    if CharClass.isAscii c then escapeChar q c else escapeCode c.toNat
  "b" ++ q.toString ++ String.join (cs.map escape) ++ q.toString

def binaryValue (text : String) : Except Error Document :=
  if text.toList.all CharClass.isAscii then
    match Base64.bytes? text.toList with
    | some bytes =>
      let s := quotedBytes bytes
      .ok (.other s s)
    | none => .error .malformed
  else .error .malformed

/-- the value of text of a kind; only kinds of scalars have any -/
def scalarValue (kind : Kind) (text : String) : Except Error Document :=
  match kind with
  | .null => .ok .null
  | .truth => (truthValue text).map .bool
  | .integer => (integerValue text).map .integer
  | .real => (realValue text).map .real
  | .timestamp => timestampValue text
  | .binary => binaryValue text
  | .text => .ok (.text text)
  | _ => .error .malformed

end BankSwitch.Yaml
