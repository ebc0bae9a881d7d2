import BankSwitch.Text.Integer

/-!
# Binary floating-point numbers

Numbers with a 53-bit significand, as documents hold them when they are written with a point or an
exponent.  A finite number is `± significand * 2 ^ exponent` in canonical form: the significand has
53 bits, or the exponent is the least one.

* `ofRatio` rounds a quotient of naturals to the nearest number, a tie to the even significand;
* `ofDecimal` rounds a decimal;
* `shortest` finds the fewest decimal digits that round back to the number.
-/

namespace BankSwitch

inductive Binary64 where
  | finite (negative : Bool) (significand : Nat) (exponent : Int)
  | infinite (negative : Bool)
  | undefined
  deriving DecidableEq

namespace Binary64

/-- the least exponent of a finite number -/
def leastExponent : Int := -1074

/-- the greatest exponent of a finite number -/
def greatestExponent : Int := 971

def zero (negative : Bool) : Binary64 := .finite negative 0 leastExponent

/-- numerator and denominator of `num / den / 2 ^ e` -/
def scaled (num den : Nat) (e : Int) : Nat × Nat :=
  if 0 ≤ e then (num, den <<< e.toNat) else (num <<< (-e).toNat, den)

/-- the exponent at which the quotient has 53 bits, unless that is below the least one -/
def exponentFor (num den : Nat) : Int :=
  let e : Int := (num.log2 : Int) - den.log2 - 52
  let (n, d) := scaled num den e
  let e := if n / d < 1 <<< 52 then e - 1 else e
  max e leastExponent

/-- a quotient rounded to a whole number, ties to even -/
def roundHalfEven (num den : Nat) : Nat :=
  let q := num / den
  let r := num % den
  if 2 * r < den then q
  else if den < 2 * r then q + 1
  else if q % 2 = 0 then q else q + 1

/-- the number nearest to `num / den` -/
def ofRatio (negative : Bool) (num den : Nat) : Binary64 :=
  if num = 0 then zero negative
  else
    let e := exponentFor num den
    let (n, d) := scaled num den e
    let s := roundHalfEven n d
    let (s, e) := if s = 1 <<< 53 then (1 <<< 52, e + 1) else (s, e)
    if greatestExponent < e then .infinite negative else .finite negative s e

/-- a power of ten -/
def tenTo (k : Nat) : Nat := Nat.pow 10 k

/-- how many decimal digits a positive number has -/
def decimalLength (n : Nat) : Nat := (Nat.toDigits 10 n).length

/-- the number nearest to `digits * 10 ^ exponent`; far outside the finite range no power of ten
is computed -/
def ofDecimal (negative : Bool) (digits : Nat) (exponent : Int) : Binary64 :=
  let magnitude : Int := decimalLength digits + exponent
  if digits = 0 || magnitude < -330 then zero negative
  else if 310 < magnitude then .infinite negative
  else if 0 ≤ exponent then ofRatio negative (digits * tenTo exponent.toNat) 1
  else ofRatio negative digits (tenTo (-exponent).toNat)

/-- absolute value of a finite number as a quotient -/
def ratio (significand : Nat) (exponent : Int) : Nat × Nat := scaled significand 1 (-exponent)

/-- the integer that the number is, if it is one -/
def toInt? : Binary64 → Option Int
  | .finite negative s e =>
    let (n, d) := ratio s e
    if n % d = 0 then some (if negative then -((n / d : Nat) : Int) else ((n / d : Nat) : Int))
    else none
  | _ => none

/-- strictly below the integer `k` -/
def ltInt (x : Binary64) (k : Int) : Bool :=
  match x with
  | .finite negative s e =>
    let (n, d) := ratio s e
    let v : Int := if negative then -(n : Int) else n
    decide (v < k * d)
  | .infinite negative => negative
  | .undefined => false

/-- strictly above the integer `k` -/
def gtInt (x : Binary64) (k : Int) : Bool :=
  match x with
  | .finite negative s e =>
    let (n, d) := ratio s e
    let v : Int := if negative then -(n : Int) else n
    decide (k * d < v)
  | .infinite negative => !negative
  | .undefined => false

def negate : Binary64 → Binary64
  | .finite negative s e => .finite (!negative) s e
  | .infinite negative => .infinite (!negative)
  | .undefined => .undefined

/-- sixty times a number of no sign plus another, rounded after each step -/
def fromParts (parts : List Binary64) : Binary64 :=
  let step (acc : Binary64 × Nat) (x : Binary64) : Binary64 × Nat :=
    match acc.1, x with
    | .finite _ s e, .finite _ s' e' =>
      let (n, d) := ratio s e
      let (n', d') := ratio s' e'
      match ofRatio false (n' * acc.2) d' with
      | .finite _ s'' e'' =>
        let (m, k) := ratio s'' e''
        (ofRatio false (n * k + m * d) (d * k), acc.2 * 60)
      | y => (y, acc.2 * 60)
    | .finite _ _ _, y => (y, acc.2 * 60)
    | y, _ => (y, acc.2 * 60)
  (parts.reverse.foldl step (zero false, 1)).1

/-! ## shortest decimal text -/

/-- `num / den` lies in `[10 ^ (p - 1), 10 ^ p)` for this `p` -/
def pointPlace (num den : Nat) : Int :=
  let k : Int := (decimalLength num : Int) - decimalLength den
  let below := if 0 ≤ k then num < den * tenTo k.toNat else num * tenTo (-k).toNat < den
  if below then k else k + 1

/-- of the two neighbours of the number with unit `10 ^ u`, the one that rounds back to it; of two
the nearer, of two as near the even one -/
def readBack? (significand : Nat) (exponent u : Int) : Option Nat :=
  let (n, d) := ratio significand exponent
  let (n, d) := if 0 ≤ u then (n, d * tenTo u.toNat) else (n * tenTo (-u).toNat, d)
  let low := n / d
  let back (c : Nat) : Bool := ofDecimal false c u = .finite false significand exponent
  match back low, back (low + 1) with
  | true, true => some (roundHalfEven n d)
  | true, false => some low
  | false, true => some (low + 1)
  | false, false => none

/-- the fewest digits that round back, and the place of the point before them -/
def shortest (significand : Nat) (exponent : Int) : List Char × Int :=
  let (n, d) := ratio significand exponent
  let p := pointPlace n d
  let found := (List.range 17).findSome? fun (i : Nat) =>
    let u : Int := p - (i + 1)
    (readBack? significand exponent u).map fun c => (c, u)
  let (c, u) := found.getD (significand, 0)
  let ds := Nat.toDigits 10 c
  let place : Int := ds.length + u
  ((ds.reverse.dropWhile (· = '0')).reverse, place)

/-- decimals with the point at these places are written without an exponent -/
def isPositional (place : Int) : Bool := decide (-4 < place) && decide (place ≤ 16)

/-- digits with the point set into them; a whole number ends in `.0` -/
def positional (ds : List Char) (place : Int) : List Char :=
  if place ≤ 0 then '0' :: '.' :: (List.replicate (-place).toNat '0' ++ ds)
  else
    let k := place.toNat
    if ds.length ≤ k then ds ++ List.replicate (k - ds.length) '0' ++ ['.', '0']
    else ds.take k ++ '.' :: ds.drop k

/-- one digit, the point, the rest, and an exponent of at least two digits -/
def scientific (ds : List Char) (place : Int) : List Char :=
  let e := place - 1
  let es := Nat.toDigits 10 e.natAbs
  let mark := ['e', if e < 0 then '-' else '+'] ++ List.replicate (2 - es.length) '0' ++ es
  match ds with
  | d :: [] => d :: mark
  | d :: r => d :: '.' :: (r ++ mark)
  | [] => mark

/-- the number as documents and messages show it -/
def text : Binary64 → String
  | .undefined => "nan"
  | .infinite negative => if negative then "-inf" else "inf"
  | .finite negative s e =>
    let body := if s = 0 then ['0', '.', '0']
      else
        let (ds, place) := shortest s e
        if isPositional place then positional ds place else scientific ds place
    String.ofList (if negative then '-' :: body else body)

end Binary64

/-! ## reading decimals

Binary numbers from decimal text: digits of any script with a point and an exponent, or the words
for infinity and for what is no number; a sign may stand in front and white space around.
-/

namespace Decimal

/-- the digits at the front -/
def takeDigits (s : List Char) : List Char × List Char :=
  (s.takeWhile Char.isDigit, s.dropWhile Char.isDigit)

/-- the power of ten behind its mark; nothing stands for zero -/
def exponent? : List Char → Option Int
  | [] => some 0
  | m :: r =>
    if m = 'e' || m = 'E' then
      let (negative, t) := match r with
        | '-' :: t => (true, t)
        | '+' :: t => (false, t)
        | t => (false, t)
      let (ds, rest) := takeDigits t
      if ds.isEmpty || !rest.isEmpty then none
      else some (if negative then -(digitsValue 10 ds : Int) else (digitsValue 10 ds : Int))
    else none

/-- digits with a point and an exponent -/
def unsigned? (negative : Bool) (s : List Char) : Option Binary64 := do
  let (whole, r) := takeDigits s
  let (fraction, r) := match r with
    | '.' :: t => takeDigits t
    | t => ([], t)
  let e ← exponent? r
  if whole.isEmpty && fraction.isEmpty then none
  else some (.ofDecimal negative (digitsValue 10 (whole ++ fraction)) (e - fraction.length))

/-- a word, or a decimal -/
def magnitude? (negative : Bool) (s : List Char) : Option Binary64 :=
  let word := String.ofList (s.map Char.toLower)
  if word = "inf" || word = "infinity" then some (.infinite negative)
  else if word = "nan" then some .undefined
  else unsigned? negative s

/-- the number that a text stands for -/
def read? (text : String) : Option Binary64 :=
  let blankless := ((IntegerText.plain text.toList).dropWhile IntegerText.isBlank).reverse
  match (blankless.dropWhile IntegerText.isBlank).reverse with
  | '-' :: r => magnitude? true r
  | '+' :: r => magnitude? false r
  | r => magnitude? false r

end Decimal

end BankSwitch
