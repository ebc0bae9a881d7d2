import BankSwitch.Document.Basic
import BankSwitch.Reading

/-!
# JSON

Reads JSON text as a document.  Beyond the standard, `NaN`, `Infinity` and `-Infinity` are numbers.
A name that an object binds twice keeps its first place and its last value.  An integer may have any
number of digits here; the limit of the host (`hostDigits`) is left out.
-/

namespace BankSwitch.Json

def isBlank (c : Char) : Bool := c = ' ' || c = '\t' || c = '\n' || c = '\r'

def skipBlanks (s : List Char) : List Char := s.dropWhile isBlank

theorem length_skipBlanks_le (s : List Char) : (skipBlanks s).length ≤ s.length :=
  length_dropWhile_le isBlank s

/-- the value of four digits in base sixteen, and what follows them -/
def hex4 : List Char → Option (Nat × List Char)
  | a :: b :: c :: d :: r => do
    let digit (x : Char) := (CharClass.digitValue? x).filter (· < 16)
    let a ← digit a
    let b ← digit b
    let c ← digit c
    let d ← digit d
    some (((a * 16 + b) * 16 + c) * 16 + d, r)
  | _ => none

theorem length_of_hex4 {s r : List Char} {n : Nat} (h : hex4 s = some (n, r)) :
    r.length < s.length := by
  match s, h with
  | a :: b :: c :: d :: t, h =>
    simp only [hex4, Option.bind_eq_bind, Option.bind_eq_some_iff, Option.some.injEq,
      Prod.mk.injEq] at h
    obtain ⟨_, _, _, _, _, _, _, _, _, hr⟩ := h
    subst hr
    simp only [List.length_cons]
    omega

/-- the character of a short escape -/
def shortEscape? (c : Char) : Option Char :=
  if c = '"' || c = '\\' || c = '/' then some c
  else if c = 'b' then some '\x08'
  else if c = 'f' then some '\x0c'
  else if c = 'n' then some '\n'
  else if c = 'r' then some '\r'
  else if c = 't' then some '\t'
  else none

/-- a high surrogate takes the low one that follows it -/
def codePoint (n : Nat) (r : List Char) : Nat × List Char :=
  if 0xd800 ≤ n && n < 0xdc00 then
    match r with
    | '\\' :: 'u' :: r' =>
      match hex4 r' with
      | some (m, r'') =>
        if 0xdc00 ≤ m && m < 0xe000 then (0x10000 + (n - 0xd800) * 0x400 + (m - 0xdc00), r'')
        else (n, r)
      | none => (n, r)
    | _ => (n, r)
  else (n, r)

theorem length_codePoint_le (n : Nat) (r : List Char) : (codePoint n r).2.length ≤ r.length := by
  unfold codePoint
  split
  · split
    · split
      · next h =>
        have := length_of_hex4 h
        split <;> simp only [List.length_cons] <;> omega
      · exact Nat.le_refl _
    · exact Nat.le_refl _
  · exact Nat.le_refl _

/-- the character with a code; half a surrogate pair becomes the replacement character -/
def charOf (n : Nat) : Char := if n.isValidChar then Char.ofNat n else '\ufffd'

/-- the characters of a string up to its closing quote -/
def stringBody : (s : List Char) → Option (Reading (List Char) s)
  | [] => none
  | '"' :: r => some (.front '"' r [])
  | '\\' :: 'u' :: r =>
    match hr : hex4 r with
    | some (n, r') =>
      have h1 := length_of_hex4 hr
      have h2 := length_codePoint_le n r'
      match stringBody (codePoint n r').2 with
      | some ⟨cs, t, h⟩ => some ⟨charOf (codePoint n r').1 :: cs, t, by
          simp only [List.length_cons]; omega⟩
      | none => none
    | none => none
  | '\\' :: c :: r =>
    match shortEscape? c, stringBody r with
    | some e, some b => some (((b.map (e :: ·)).behind c).behind '\\')
    | _, _ => none
  | c :: r =>
    if c.toNat < 0x20 || c = '\\' then none
    else match stringBody r with
      | some b => some ((b.map (c :: ·)).behind c)
      | none => none
termination_by s => s.length
decreasing_by all_goals simp only [List.length_cons]; omega

/-- the digits behind a point, if any stand there -/
def fraction? : List Char → Option (List Char × List Char)
  | '.' :: r =>
    match r.takeWhile Char.isDigit with
    | [] => none
    | ds => some (ds, r.dropWhile Char.isDigit)
  | _ => none

/-- the exponent behind its mark, if digits stand there -/
def exponent? : List Char → Option (Int × List Char)
  | m :: r =>
    if m = 'e' || m = 'E' then
      let (negative, t) := match r with
        | '-' :: t => (true, t)
        | '+' :: t => (false, t)
        | t => (false, t)
      match t.takeWhile Char.isDigit with
      | [] => none
      | ds =>
        let n : Int := digitsValue 10 ds
        some (if negative then -n else n, t.dropWhile Char.isDigit)
    else none
  | [] => none

/-- the digits before the point: a lone zero, or digits that do not start with one -/
def whole? : List Char → Option (List Char × List Char)
  | '0' :: r => some (['0'], r)
  | s =>
    match s.takeWhile Char.isDigit with
    | [] => none
    | ds => some (ds, s.dropWhile Char.isDigit)

/-- an unsigned number; with a point or an exponent it is real -/
def unsigned? (negative : Bool) (s : List Char) : Option (Document × List Char) := do
  let (ds, r) ← whole? s
  let (fs, r') := (fraction? r).getD ([], r)
  let found := exponent? r'
  let (e, r'') := found.getD (0, r')
  let n := digitsValue 10 (ds ++ fs)
  if fs.isEmpty && found.isNone then
    some (.integer (if negative then -(n : Int) else n), r)
  else some (.real (.ofDecimal negative n (e - fs.length)), r'')

/-- a word that stands at the front -/
def word? (w : String) (d : Document) (s : List Char) : Option (Document × List Char) :=
  if w.toList.isPrefixOf s then some (d, s.drop w.length) else none

/-- a value that holds no other value and is no string -/
def scalar? (s : List Char) : Option (Document × List Char) :=
  word? "null" .null s <|> word? "true" (.bool true) s <|> word? "false" (.bool false) s <|>
  word? "NaN" (.real .undefined) s <|> word? "Infinity" (.real (.infinite false)) s <|>
  word? "-Infinity" (.real (.infinite true)) s <|>
  match s with
  | '-' :: r => unsigned? true r
  | _ => unsigned? false s

/-- what a scalar left over, if it is shorter -/
def consumed? (s : List Char) : Option (Document × List Char) → Option (Reading Document s)
  | some (d, r) => if h : r.length < s.length then some ⟨d, r, h⟩ else none
  | none => none

mutual
def value : (s : List Char) → Option (Reading Document s)
  | '"' :: r => do
    let ⟨cs, t, h⟩ ← stringBody r
    some ⟨.text (String.ofList cs), t, by simp only [List.length_cons]; omega⟩
  | '[' :: r =>
    have hb := length_skipBlanks_le r
    match hr : skipBlanks r with
    | ']' :: t => some ⟨.list [], t, by simp only [hr, List.length_cons] at *; omega⟩
    | t => do
      have ht : t.length ≤ r.length := by rw [← hr]; exact hb
      let ⟨ds, u, h⟩ ← listItems t
      some ⟨.list ds, u, by simp only [List.length_cons]; omega⟩
  | '\x7b' :: r =>
    have hb := length_skipBlanks_le r
    match hr : skipBlanks r with
    | '\x7d' :: t => some ⟨.mapping [], t, by simp only [hr, List.length_cons] at *; omega⟩
    | t => do
      have ht : t.length ≤ r.length := by rw [← hr]; exact hb
      let ⟨es, u, h⟩ ← objectEntries [] t
      some ⟨.mapping es, u, by simp only [List.length_cons]; omega⟩
  | s => consumed? s (scalar? s)
termination_by s => (s.length, 0)

/-- the items of a list behind its opening bracket, at least one -/
def listItems (s : List Char) : Option (Reading (List Document) s) := do
  let ⟨d, r, h⟩ ← value s
  have hb := length_skipBlanks_le r
  match hr : skipBlanks r with
  | ',' :: t =>
    have hc := length_skipBlanks_le t
    have ht : t.length < r.length := by simp only [hr, List.length_cons] at hb; omega
    let ⟨ds, u, h'⟩ ← listItems (skipBlanks t)
    some ⟨d :: ds, u, by omega⟩
  | ']' :: t => some ⟨[d], t, by simp only [hr, List.length_cons] at hb; omega⟩
  | _ => none
termination_by (s.length, 1)

/-- the entries of an object behind its opening brace, at least one, bound in turn -/
def objectEntries (bound : List (Document × Document)) :
    (s : List Char) → Option (Reading (List (Document × Document)) s)
  | '"' :: s => do
    let ⟨name, r, h⟩ ← stringBody s
    have hb := length_skipBlanks_le r
    match hr : skipBlanks r with
    | ':' :: t =>
      have hc := length_skipBlanks_le t
      have ht : t.length < r.length := by simp only [hr, List.length_cons] at hb; omega
      let ⟨d, u, h'⟩ ← value (skipBlanks t)
      have hd := length_skipBlanks_le u
      let bound := Document.bind bound (.text (String.ofList name)) d
      match hu : skipBlanks u with
      | ',' :: v =>
        have he := length_skipBlanks_le v
        have hv : v.length < u.length := by simp only [hu, List.length_cons] at hd; omega
        let ⟨es, w, h''⟩ ← objectEntries bound (skipBlanks v)
        some ⟨es, w, by simp only [List.length_cons]; omega⟩
      | '\x7d' :: v =>
        some ⟨bound, v, by simp only [hu, List.length_cons] at *; omega⟩
      | _ => none
    | _ => none
  | _ => none
termination_by s => (s.length, 0)
end

/-- the document that the whole text holds -/
def read (text : String) : Option Document := do
  let ⟨d, r, _⟩ ← value (skipBlanks text.toList)
  if (skipBlanks r).isEmpty then some d else none

end BankSwitch.Json
