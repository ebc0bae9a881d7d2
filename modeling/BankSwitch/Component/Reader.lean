import BankSwitch.Component.Basic
import BankSwitch.Layout.Reader
import BankSwitch.Translation.Reader

/-!
# Reading components

`memory<a, b> { bank ... }`, each bank with its layout and its translation.  The component takes the
width of the settings.
-/

namespace BankSwitch

variable {α : Type}

namespace Bank

/-- `bank { layout: partition translation: translation }` -/
def read (x : Source) (s : List Token) : Except ReadError (Reading (Bank α) s) := do
  let ⟨_, s₁, h₁⟩ ← x.expect .bank s
  let ⟨_, s₂, h₂⟩ ← x.expect .leftBrace s₁
  let ⟨_, s₃, h₃⟩ ← x.expect .layout s₂
  let ⟨_, s₄, h₄⟩ ← x.expect .colon s₃
  let ⟨layout, s₅, h₅⟩ ← Partition.read x s₄
  let ⟨_, s₆, h₆⟩ ← x.expect .translation s₅
  let ⟨_, s₇, h₇⟩ ← x.expect .colon s₆
  let ⟨translation, s₈, h₈⟩ ← Translation.read x s₇
  let ⟨_, s₉, h₉⟩ ← x.expect .rightBrace s₈
  return ⟨⟨layout, translation⟩, s₉, by omega⟩

/-- banks, as long as the word stands in front -/
def readMore (x : Source) (s : List Token) : Except ReadError (Trailing (List (Bank α)) s) :=
  if Source.next? s = some .bank then do
    let b ← read x s
    let bs ← readMore x b.rest
    return b.cons bs
  else .ok (.nothing [] s)
termination_by s.length
decreasing_by exact b.shorter

end Bank

namespace Component

def read (x : Source) (s : List Token) : Except ReadError (Reading (Component α) s) := do
  let ⟨_, s₁, h₁⟩ ← x.expect .memory s
  let ⟨_, s₂, h₂⟩ ← x.expect .below s₁
  let ⟨a, s₃, h₃⟩ ← x.number s₂
  let ⟨_, s₄, h₄⟩ ← x.expect .comma s₃
  let ⟨b, s₅, h₅⟩ ← x.number s₄
  let ⟨_, s₆, h₆⟩ ← x.expect .above s₅
  let ⟨_, s₇, h₇⟩ ← x.expect .leftBrace s₆
  let ⟨banks, s₈, h₈⟩ ← Bank.readMore x s₇
  if banks.isEmpty then .error (x.fault s₈ .noBank)
  else
    let ⟨_, s₉, h₉⟩ ← x.expect .rightBrace s₈
    match ofBanks a b banks x.settings.width.value with
    | .ok c => return ⟨c, s₉, by omega⟩
    | .error e => .error (.build e)

/-- the component that a whole text describes -/
def ofText (settings : Settings) (text : String) : Except ReadError (Component α) :=
  Source.readAll settings text read

end Component

end BankSwitch
