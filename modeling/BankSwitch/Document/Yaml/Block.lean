import BankSwitch.Document.Yaml.Glyph
import BankSwitch.Document.Yaml.Token

/-!
# Block scalars

Text in lines below a header `|` or `>`.  The header may say how deep the lines are indented and
what happens to the breaks at the end; behind `>` the break between two lines that start with no
blank is folded into a space.
-/

namespace BankSwitch.Yaml

/-- what happens to the line breaks at the end of a block -/
inductive Chomping where
  /-- one is kept -/
  | clip
  | strip
  | keep
  deriving DecidableEq

structure BlockHeader where
  chomping : Chomping
  /-- the indentation beyond that of the parent -/
  depth : Option Nat
  deriving DecidableEq

def chomping? (c : Char) : Option Chomping :=
  if c = '+' then some .keep else if c = '-' then some .strip else none

/-- a depth mark: nothing for another character, an error for zero -/
def depth? (c : Char) : Except Error (Option Nat) :=
  if c.isDigit then
    if c = '0' then .error .malformed else .ok (some (c.toNat - '0'.toNat))
  else .ok none

/-- the header behind its mark, in either order, and what follows it on the next line -/
def blockHeader (s : List Glyph) : Except Error (BlockHeader × List Glyph) := do
  let (header, r) ← match chomping? (peek s) with
    | some k => do
      let r := s.drop 1
      match ← depth? (peek r) with
      | some n => pure (BlockHeader.mk k (some n), r.drop 1)
      | none => pure (BlockHeader.mk k none, r)
    | none => do
      match ← depth? (peek s) with
      | some n =>
        let r := s.drop 1
        match chomping? (peek r) with
        | some k => pure (BlockHeader.mk k (some n), r.drop 1)
        | none => pure (BlockHeader.mk .clip (some n), r)
      | none => pure (BlockHeader.mk .clip none, s)
  if !isGap (peek r) then .error .malformed
  else
    let t := dropComment (dropSpaces r)
    if isBreakOrEnd (peek t) then return (header, (takeBreak t).2) else .error .malformed

/-- the blank lines at the front: their breaks, the deepest column that a space leads to, and what
follows -/
def leadingBlanks (deepest : Nat) : List Glyph → List Char × Nat × List Glyph
  | [] => ([], deepest, [])
  | g :: r =>
    if isBreak g.char then
      let (bs, d, t) := leadingBlanks deepest r
      (g.char :: bs, d, t)
    else if g.char = ' ' then leadingBlanks (max deepest (columnOf r)) r
    else ([], deepest, g :: r)

/-- drops spaces up to a column -/
def dropIndent (column : Nat) (s : List Glyph) : List Glyph :=
  s.dropWhile fun g => g.char = ' ' && decide (g.column < column)

/-- the breaks of the blank lines at the front, and what follows them at the block's indentation -/
def blockBreaks (column : Nat) (s : List Glyph) : List Char × List Glyph :=
  match _h : dropIndent column s with
  | g :: r =>
    if isBreak g.char then
      let (bs, t) := blockBreaks column r
      (g.char :: bs, t)
    else ([], g :: r)
  | [] => ([], [])
termination_by s.length
decreasing_by
  have h1 := length_dropWhile_le (fun g : Glyph => g.char = ' ' && decide (g.column < column)) s
  unfold dropIndent at _h
  rw [_h, List.length_cons] at h1
  omega

/-- the content of a block -/
structure BlockContent where
  text : List Char
  /-- the break behind the last line -/
  lastBreak : List Char
  /-- the breaks of the blank lines behind it -/
  trailing : List Char
  rest : List Glyph

def isBlankChar (c : Char) : Bool := c = ' ' || c = '\t'

/-- the lines of a block; `breaks` are those of the blank lines before `s` -/
def blockLines (fold : Bool) (column : Nat) (breaks : List Char) (s : List Glyph) : BlockContent :=
  if columnOf s = column && peek s ≠ endMark then
    let line := takeChars (fun c => !isBreakOrEnd c) s
    let (last, t) := takeBreak (dropChars (fun c => !isBreakOrEnd c) s)
    let (blank, u) := blockBreaks column t
    if columnOf u = column && peek u ≠ endMark && decide (u.length < s.length) then
      let joint :=
        if fold && last = ['\n'] && !isBlankChar (peek s) && !isBlankChar (peek u) then
          if blank.isEmpty then [' '] else []
        else last
      let more := blockLines fold column blank u
      { more with text := breaks ++ line ++ joint ++ more.text }
    else ⟨breaks ++ line, last, blank, u⟩
  else ⟨[], [], breaks, s⟩
termination_by s.length
decreasing_by
  simp_all

/-- the block behind its mark, in a collection indented by `indent` -/
def blockScalar (fold : Bool) (indent : Int) (s : List Glyph) :
    Except Error (List Char × List Glyph) := do
  let (header, r) ← blockHeader s
  let least := (max 1 (indent + 1)).toNat
  let content := match header.depth with
    | some n =>
      let column := least + n - 1
      let (breaks, t) := blockBreaks column r
      blockLines fold column breaks t
    | none =>
      let (breaks, deepest, t) := leadingBlanks 0 r
      blockLines fold (max least deepest) breaks t
  let tail := match header.chomping with
    | .clip => content.lastBreak
    | .strip => []
    | .keep => content.lastBreak ++ content.trailing
  return (content.text ++ tail, content.rest)

end BankSwitch.Yaml
