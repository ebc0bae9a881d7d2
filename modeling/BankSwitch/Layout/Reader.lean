import BankSwitch.Layout.Partition
import BankSwitch.Source.Stream

/-!
# Reading layouts

A partition is a range, or ranges between brackets.  A range is written `[start:stop]`,
`[start:stop:stride]` or `(Range base extent stride)`; the settings say whether the extent is a size
or a stop.
-/

namespace BankSwitch

namespace Range

/-- the range with the given bounds, or an error at the bracket that opens it -/
def checked (start stop : Int) (stride : Option Int) (p : Position) : Except ReadError Range :=
  match ofBounds start stop stride with
  | .ok r => .ok r
  | .error m => .error (.range m p)

/-- `( Range base extent stride )` -/
def readTerm (x : Source) (s : List Token) : Except ReadError (Reading Range s) := do
  let ⟨t, r₁, h₁⟩ ← x.expect .leftParen s
  let ⟨_, r₂, h₂⟩ ← x.expect .range r₁
  let ⟨base, r₃, h₃⟩ ← x.number r₂
  let ⟨extent, r₄, h₄⟩ ← x.number r₃
  let ⟨stride, r₅, h₅⟩ ← x.number r₄
  let ⟨_, r₆, h₆⟩ ← x.expect .rightParen r₅
  let (start, stop) := x.settings.rangeForm.bounds base extent
  let limit ← x.limit
  if limit < stop then
    .error (.range ⟨.pastBus base extent x.settings.width.value, start, stop, some stride⟩
      t.position)
  else
    let range ← checked start stop (some stride) t.position
    return ⟨range, r₆, by omega⟩

/-- `: stride`, if a colon stands in front -/
def readStride (x : Source) : (s : List Token) → Except ReadError (Trailing (Option Nat) s)
  | [] => .ok (.nothing none [])
  | t :: r =>
    if t.kind = .colon then do
      let n ← x.number r
      return ((n.map some).behind t).trailing
    else .ok (.nothing none (t :: r))

/-- `[ start : stop ]` or `[ start : stop : stride ]` -/
def readBracket (x : Source) (s : List Token) : Except ReadError (Reading Range s) := do
  let ⟨t, r₁, h₁⟩ ← x.expect .leftBracket s
  let ⟨start, r₂, h₂⟩ ← x.number r₁
  let ⟨_, r₃, h₃⟩ ← x.expect .colon r₂
  let ⟨stop, r₄, h₄⟩ ← x.number r₃
  let ⟨stride, r₅, h₅⟩ ← readStride x r₄
  let ⟨_, r₆, h₆⟩ ← x.expect .rightBracket r₅
  let range ← checked start stop (stride.map fun (n : Nat) => (n : Int)) t.position
  return ⟨range, r₆, by omega⟩

def read (x : Source) (s : List Token) : Except ReadError (Reading Range s) :=
  match Source.next? s with
  | some .leftParen => readTerm x s
  | some .leftBracket => readBracket x s
  | _ => .error (x.fault s .noRange)

/-- ranges up to a closing bracket -/
def readMore (x : Source) (s : List Token) : Except ReadError (Trailing (List Range) s) :=
  if Source.next? s = some .rightBracket then .ok (.nothing [] s)
  else do
    let r ← read x s
    let rs ← readMore x r.rest
    return r.cons rs
termination_by s.length
decreasing_by exact r.shorter

end Range

namespace Partition

/-- a bracket in front opens a list of ranges, and no range itself -/
def opensList : List Token → Bool
  | a :: b :: _ => a.kind = .leftBracket && (b.kind = .leftBracket || b.kind = .leftParen)
  | _ => false

def read (x : Source) (s : List Token) : Except ReadError (Reading Partition s) :=
  if opensList s then do
    let r ← x.enclosed .leftBracket .rightBracket (Range.read x) (Range.readMore x) s
    return r.map fun (r, rs) => ⟨r :: rs, List.cons_ne_nil r rs⟩
  else do
    let r ← Range.read x s
    return r.map single

/-- the partition that a whole text describes -/
def ofText (settings : Settings) (text : String) : Except ReadError Partition :=
  Source.readAll settings text read

end Partition

end BankSwitch
