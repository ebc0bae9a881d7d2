import BankSwitch.Document.Yaml.Block
import BankSwitch.Document.Yaml.Property

/-!
# Reading YAML tokens

Indentation opens and closes block collections outside brackets.  Where a key may start, the place
is remembered: when a colon follows on the same line and not too far on, the key token is put in
there afterwards, before whatever was read in between.  Until that is settled no token from there on
counts as read, so an error further on takes their place.
-/

namespace BankSwitch.Yaml

/-- a place where a key may have started -/
structure PendingKey where
  /-- the number of tokens before it -/
  tokens : Nat
  /-- it stands at the indentation of its mapping, so that it must be a key -/
  required : Bool
  line : Nat
  column : Nat
  index : Nat
  deriving DecidableEq

/-- a key and its colon may be this far apart -/
def keyReach : Nat := 1024

structure Lexer where
  rest : List Glyph
  tokens : Array Token
  /-- column of the innermost block collection; -1 outside all of them -/
  indent : Int
  /-- columns of the collections around it -/
  indents : List Int
  /-- a key may start here -/
  allowKey : Bool
  pending : Option PendingKey
  /-- what is pending around each open bracket -/
  outer : List (Option PendingKey)

namespace Lexer

def inFlow (x : Lexer) : Bool := !x.outer.isEmpty

def emit (x : Lexer) (t : Token) : Lexer := { x with tokens := x.tokens.push t }

/-- the glyph that comes next -/
def here (x : Lexer) : Glyph := (x.rest.head?).getD ⟨endMark, 0, 0, 0⟩

/-- closes the block collections that are indented more deeply than `column` -/
def unwind (x : Lexer) (column : Int) : Lexer :=
  if x.inFlow then x
  else
    let closed := (x.indent :: x.indents).takeWhile fun i => decide (column < i)
    { x with
      tokens := x.tokens ++ Array.replicate closed.length .blockEnd
      indent := ((x.indent :: x.indents).drop closed.length).headD (-1)
      indents := (x.indents).drop closed.length }

/-- opens a block collection if `column` is deeper than those that are open -/
def deepen (x : Lexer) (column : Nat) : Option Lexer :=
  if x.indent < column then
    some { x with indent := column, indents := x.indent :: x.indents }
  else none

/-- a pending key is given up when the line has ended or it is too far away -/
def refresh (g : Glyph) : Option PendingKey → Except Error (Option PendingKey)
  | none => .ok none
  | some k =>
    if k.line ≠ g.line || decide (keyReach + k.index < g.index) then
      if k.required then .error .malformed else .ok none
    else .ok (some k)

def refreshAll (x : Lexer) : Except Error Lexer := do
  let pending ← refresh x.here x.pending
  let outer ← x.outer.mapM (refresh x.here)
  return { x with pending := pending, outer := outer }

/-- gives up the pending key at this depth -/
def forgetKey (x : Lexer) : Except Error Lexer :=
  match x.pending with
  | some k => if k.required then .error .malformed else .ok { x with pending := none }
  | none => .ok x

/-- remembers that a key may start here -/
def rememberKey (x : Lexer) : Except Error Lexer :=
  if x.allowKey then do
    let x' ← x.forgetKey
    let g := x.here
    let required := !x.inFlow && decide (x.indent = g.column)
    return { x' with pending := some ⟨x.tokens.size, required, g.line, g.column, g.index⟩ }
  else .ok x

/-- moves past `n` glyphs -/
def skip (x : Lexer) (n : Nat) : Lexer := { x with rest := x.rest.drop n }

/-! ## one token after the other -/

/-- `---` or `...` at the start of a line -/
def documentMark (x : Lexer) (t : Token) : Except Error Lexer := do
  let x ← (x.unwind (-1)).forgetKey
  return ({ x with allowKey := false }.emit t).skip 3

def directive (x : Lexer) : Except Error Lexer := do
  let x ← (x.unwind (-1)).forgetKey
  let (d, r) ← directiveAt x.rest
  return { x with allowKey := false, rest := r }.emit (.directive d)

def openBracket (x : Lexer) (t : Token) : Except Error Lexer := do
  let x ← x.rememberKey
  return ({ x with allowKey := true, pending := none, outer := x.pending :: x.outer }.emit t).skip 1

def closeBracket (x : Lexer) (t : Token) : Except Error Lexer :=
  match x.outer with
  | [] => .error .malformed
  | p :: ps => .ok (({ x with allowKey := false, pending := p, outer := ps }.emit t).skip 1)

def comma (x : Lexer) : Except Error Lexer := do
  let x ← x.forgetKey
  return ({ x with allowKey := true }.emit .flowEntry).skip 1

/-- in block context an indicator may stand only where a key may, and it may open a collection -/
def openBlock (x : Lexer) (start : Token) : Except Error Lexer :=
  if x.inFlow then .ok x
  else if !x.allowKey then .error .malformed
  else match x.deepen x.here.column with
    | some x' => .ok (x'.emit start)
    | none => .ok x

def dash (x : Lexer) : Except Error Lexer := do
  let x ← x.openBlock .blockSequenceStart
  let x ← x.forgetKey
  return ({ x with allowKey := true }.emit .blockEntry).skip 1

def questionMark (x : Lexer) : Except Error Lexer := do
  let x ← x.openBlock .blockMappingStart
  let x ← x.forgetKey
  return ({ x with allowKey := !x.inFlow }.emit .key).skip 1

/-- puts tokens in behind the first `n` -/
def insertAt (ts : Array Token) (n : Nat) (new : List Token) : Array Token :=
  ts.extract 0 n ++ new.toArray ++ ts.extract n ts.size

def colon (x : Lexer) : Except Error Lexer := do
  match x.pending with
  | some k =>
    let x := { x with pending := none, allowKey := false }
    let (x, new) := if x.inFlow then (x, [Token.key])
      else match x.deepen k.column with
        | some x' => (x', [Token.blockMappingStart, Token.key])
        | none => (x, [Token.key])
    return ({ x with tokens := insertAt x.tokens k.tokens new }.emit .value).skip 1
  | none =>
    let x ← x.openBlock .blockMappingStart
    return ({ x with allowKey := !x.inFlow }.emit .value).skip 1

/-- a token that may be a key, read behind its mark by `take` -/
def content (x : Lexer) (take : List Glyph → Except Error (Token × List Glyph)) :
    Except Error Lexer := do
  let x ← x.rememberKey
  let (t, r) ← take x.rest
  return { x with allowKey := false, rest := r }.emit t

def anchor (x : Lexer) (mk : String → Token) : Except Error Lexer :=
  x.content fun s => do
    let (name, r) ← anchorName (s.drop 1)
    return (mk name, r)

def tag (x : Lexer) : Except Error Lexer :=
  x.content fun s => do
    let (t, r) ← tagAt s
    return (.tag t, r)

def quotation (x : Lexer) (double : Bool) : Except Error Lexer :=
  x.content fun s => do
    let (cs, r) ← quotedText double (s.drop 1)
    return (.scalar (String.ofList cs) false, r)

def block (x : Lexer) (fold : Bool) : Except Error Lexer := do
  let x ← x.forgetKey
  let (cs, r) ← blockScalar fold x.indent (x.rest.drop 1)
  return { x with allowKey := true, rest := r }.emit (.scalar (String.ofList cs) false)

def plain (x : Lexer) : Except Error Lexer := do
  let x ← x.rememberKey
  let (cs, r, crossed) := plainScalar x.inFlow (x.indent + 1) x.rest
  return { x with allowKey := crossed, rest := r }.emit (.scalar (String.ofList cs) true)

/-- plain text may start with `c`, which `next` follows -/
def startsPlain (inFlow : Bool) (c next : Char) : Bool :=
  (!isSeparator c && !"-?:,[]\x7b\x7d#&*!|>'\"%@\x60".toList.contains c) ||
    (!isSeparator next && (c = '-' || (!inFlow && (c = '?' || c = ':'))))

/-- moves to the next content, closing block collections on the way -/
def settle (x : Lexer) : Except Error Lexer := do
  let (r, crossed) := nextContent x.rest
  let x ← { x with rest := r, allowKey := x.allowKey || (crossed && !x.inFlow) }.refreshAll
  return x.unwind x.here.column

/-- reads one token from content -/
def next (x : Lexer) : Except Error Lexer :=
  let c := peek x.rest
  let after := ahead x.rest 1
  let atMargin := x.here.column = 0
  if c = '%' && atMargin then x.directive
  else if c = '-' && atMargin && atDocumentMark x.rest then x.documentMark .documentStart
  else if c = '.' && atMargin && atDocumentMark x.rest then x.documentMark .documentEnd
  else if c = '[' then x.openBracket .flowSequenceStart
  else if c = '\x7b' then x.openBracket .flowMappingStart
  else if c = ']' then x.closeBracket .flowSequenceEnd
  else if c = '\x7d' then x.closeBracket .flowMappingEnd
  else if c = ',' then x.comma
  else if c = '-' && isSeparator after then x.dash
  else if c = '?' && (x.inFlow || isSeparator after) then x.questionMark
  else if c = ':' && (x.inFlow || isSeparator after) then x.colon
  else if c = '*' then x.anchor .alias
  else if c = '&' then x.anchor .anchor
  else if c = '!' then x.tag
  else if c = '|' && !x.inFlow then x.block false
  else if c = '>' && !x.inFlow then x.block true
  else if c = '\'' then x.quotation false
  else if c = '"' then x.quotation true
  else if startsPlain x.inFlow c after then x.plain
  else .error .malformed

/-- closes everything at the end of the text -/
def finish (x : Lexer) : Except Error (List Token) := do
  let x ← (x.unwind (-1)).forgetKey
  return x.tokens.toList

/-- the number of a token that may yet become a key -/
def openKey? (g : Glyph) (k : Option PendingKey) : Option Nat :=
  match refresh g k with
  | .ok k => k.map PendingKey.tokens
  | .error _ => none

/-- how many tokens at the front cannot change any more -/
def settled (x : Lexer) : Nat :=
  ((x.pending :: x.outer).filterMap (openKey? x.here)).foldl min x.tokens.size

/-- the tokens, as far as they are settled, and the error that stops the reading -/
def stop (x : Lexer) (e : Error) : List Token := x.tokens.toList.take x.settled ++ [.fault e]

def run (x : Lexer) : List Token :=
  match x.settle with
  | .error e => x.stop e
  | .ok y =>
    if peek y.rest = endMark then
      match y.finish with
      | .error e => x.stop e
      | .ok ts => ts
    else match y.next with
      | .error e => x.stop e
      | .ok z => if z.rest.length < x.rest.length then z.run else x.stop .malformed
termination_by x.rest.length

end Lexer

/-- the tokens of a text; a byte order mark at its start does not count -/
def tokens (text : String) : List Token :=
  if text.toList.all isAllowed then
    let s := glyphs text.toList
    let s := if peek s = '\ufeff' then s.drop 1 else s
    Lexer.run ⟨s, #[], -1, [], true, none, []⟩
  else [.fault .malformed]

end BankSwitch.Yaml
