import BankSwitch.Reading
import BankSwitch.Source.Lexer

/-!
# Taking tokens

Readers of the grammar take tokens off the front of a list.  An error names the token at the front;
when nothing is left it names the end of the text.
-/

namespace BankSwitch

/-- what readers know besides the tokens in front of them -/
structure Source where
  settings : Settings
  /-- the end of the text -/
  ending : Position

namespace Source

/-- the kind of the token in front -/
def next? : List Token → Option Token.Kind
  | [] => none
  | t :: _ => some t.kind

/-- the error that a fault makes of the token in front -/
def fault (x : Source) (s : List Token) (f : GrammarFault) : ReadError :=
  match s with
  | [] => .grammar f x.ending true
  | t :: _ => .grammar f t.position (t.kind = .endOfInput)

/-- the error of a token that should have been of another kind -/
def mismatch (x : Source) (k : Token.Kind) (s : List Token) : ReadError :=
  match s with
  | [] => x.fault s (.mismatch k .endOfInput)
  | t :: _ => x.fault s (.mismatch k t.lexeme)

/-- a token of the given kind -/
def expect (x : Source) (k : Token.Kind) : (s : List Token) → Except ReadError (Reading Token s)
  | [] => .error (x.mismatch k [])
  | t :: r => if t.kind = k then .ok (.front t r t) else .error (x.mismatch k (t :: r))

/-- a number -/
def number (x : Source) : (s : List Token) → Except ReadError (Reading Nat s)
  | ⟨.number n, p⟩ :: r => .ok (.front ⟨.number n, p⟩ r n)
  | s => .error (x.mismatch .number s)

/-- a first thing and more of its kind, between an opening and a closing token -/
def enclosed {α : Type} (x : Source) (opening closing : Token.Kind)
    (first : (s : List Token) → Except ReadError (Reading α s))
    (more : (s : List Token) → Except ReadError (Trailing (List α) s)) (s : List Token) :
    Except ReadError (Reading (α × List α) s) := do
  let ⟨_, s₁, h₁⟩ ← x.expect opening s
  let ⟨a, s₂, h₂⟩ ← first s₁
  let ⟨as, s₃, h₃⟩ ← more s₂
  let ⟨_, s₄, h₄⟩ ← x.expect closing s₃
  return ⟨(a, as), s₄, by omega⟩

/-- one past the greatest address -/
def limit (x : Source) : Except ReadError Nat :=
  match x.settings.limit with
  | .ok n => .ok n
  | .error e => .error (.width e)

/-- the place of the last token -/
def endOf : List Token → Position
  | [] => Position.start
  | [t] => t.position
  | _ :: t :: r => endOf (t :: r)

/-- the tokens of a text, and what readers of them know -/
def ofText (settings : Settings) (text : String) : Except ReadError (Source × List Token) := do
  let ts ← Token.tokens settings.toMeasure text
  return (⟨settings, endOf ts⟩, ts)

/-- a whole text, read from its first token to its end -/
def readAll {α : Type} (settings : Settings) (text : String)
    (read : Source → (s : List Token) → Except ReadError (Reading α s)) : Except ReadError α := do
  let (x, ts) ← ofText settings text
  let ⟨a, rest, _⟩ ← read x ts
  let _ ← x.expect .endOfInput rest
  return a

end Source

end BankSwitch
