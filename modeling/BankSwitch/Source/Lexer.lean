import BankSwitch.Reading
import BankSwitch.Source.Error
import BankSwitch.Text.CharClass

/-!
# From text to tokens

White space separates tokens and means nothing else.  Words and numbers are as long as they can be,
symbols too.  A number stands for its value, however it is spelled, and must fit the width; a decimal
must not be longer than the host reads, which comes before anything else that is wrong with it.
-/

namespace BankSwitch.Token

/-- the white space of descriptions -/
def isBlank (c : Char) : Bool := c = ' ' || c = '\t' || c = '\r' || c = '\n'

theorem isBlank_iff {c : Char} : isBlank c = true ↔ c = ' ' ∨ c = '\t' ∨ c = '\r' ∨ c = '\n' := by
  simp [isBlank, or_assoc]

/-- a character that a word may start with -/
def startsWord (c : Char) : Bool := CharClass.isLetter c || c = '_'

/-- a character that words and numbers may not stop before -/
def isWordChar (c : Char) : Bool := CharClass.isAlphanumeric c || c = '_'

/-- a lexeme with its spelling, which is never empty -/
structure Spelled where
  lexeme : Lexeme
  spelling : List Char

/-- the lexeme of a number that has been spelled out, if it may end before `rest` and fits -/
def finishNumber (m : Measure) (p : Position) (spelling : List Char) (value : Nat)
    (rest : List Char) : Except ReadError Lexeme :=
  match rest.head? with
  | some c =>
    if isWordChar c then .error (.lexical (.numberSuffix c) (p.after spelling)) else fits
  | none => fits
where
  fits : Except ReadError Lexeme :=
    match m.limit with
    | .error fault => .error (.width fault)
    | .ok limit => if value < limit then .ok (.number value) else .error (.overflow value m.value p)

/-- a number in base sixteen behind its `#` -/
def hexNumber (m : Measure) (p : Position) :
    (s : List Char) → Except ReadError (Reading Spelled ('#' :: s))
  | 'x' :: r =>
    match r.takeWhile CharClass.isHexDigit with
    | [] => .error (.lexical .hexDigits (p.after ['#', 'x']))
    | ds => do
      let lexeme ← finishNumber m p ('#' :: 'x' :: ds) (digitsValue 16 ds)
        (r.dropWhile CharClass.isHexDigit)
      return ⟨⟨lexeme, '#' :: 'x' :: ds⟩, r.dropWhile CharClass.isHexDigit, by
        have := length_dropWhile_le CharClass.isHexDigit r
        simp only [List.length_cons]; omega⟩
  | s => .error (.lexical (.hexMark s.head?) (p.after ['#']))

/-- the lexeme at the front of a text that starts with no white space -/
def lexemeAt (m : Measure) (p : Position) (c : Char) (r : List Char) :
    Except ReadError (Reading Spelled (c :: r)) :=
  if c.isDigit then
    let ds := c :: r.takeWhile Char.isDigit
    match LongDecimal.of? m.digits ds.length with
    | some fault => .error (.decimal fault)
    | none => do
      let lexeme ← finishNumber m p ds (digitsValue 10 ds) (r.dropWhile Char.isDigit)
      return ⟨⟨lexeme, ds⟩, r.dropWhile Char.isDigit,
        Nat.lt_succ_of_le (length_dropWhile_le Char.isDigit r)⟩
  else if h : c = '#' then
    h ▸ hexNumber m p r
  else if startsWord c then
    let word := c :: r.takeWhile isWordChar
    .ok ⟨⟨.spelled (wordKind word) (String.ofList word), word⟩, r.dropWhile isWordChar,
      Nat.lt_succ_of_le (length_dropWhile_le isWordChar r)⟩
  else match symbolAt? (c :: r) with
    | some (spelling, kind) =>
      .ok ⟨⟨.spelled kind (String.ofList spelling), spelling⟩, r.drop (spelling.length - 1), by
        simp only [List.length_cons, List.length_drop]; omega⟩
    | none => .error (.lexical (.strayCharacter c) p)

/-- the tokens of a text that starts at `p`, the end of the text last -/
def tokensFrom (m : Measure) (p : Position) (s : List Char) : Except ReadError (List Token) :=
  match s with
  | [] => .ok [atEnd p]
  | c :: r =>
    if isBlank c then tokensFrom m (p.advance c) r
    else do
      let ⟨x, rest, _h⟩ ← lexemeAt m p c r
      let more ← tokensFrom m (p.after x.spelling) rest
      return ⟨x.lexeme, p⟩ :: more
termination_by s.length
decreasing_by all_goals grind

/-- the tokens of a text -/
def tokens (m : Measure) (text : String) : Except ReadError (List Token) :=
  tokensFrom m Position.start text.toList

end BankSwitch.Token
