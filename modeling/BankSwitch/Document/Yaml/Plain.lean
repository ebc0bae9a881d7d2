import BankSwitch.Document.Yaml.Glyph

/-!
# Plain scalars

Text without quotes.  It runs on over lines as long as they are indented deeply enough; a single
line break inside it is a space, further ones are kept.
-/

namespace BankSwitch.Yaml

/-- characters that structure a flow collection -/
def isFlowMark (c : Char) : Bool :=
  c = ',' || c = '[' || c = ']' || c = '\x7b' || c = '\x7d'

/-- a word of plain text ends before `c`, which `next` follows -/
def endsWord (inFlow : Bool) (c next : Char) : Bool :=
  isSeparator c || (c = ':' && (isSeparator next || (inFlow && isFlowMark next))) ||
    (inFlow && (isFlowMark c || c = '?'))

/-- the characters of a word, and what follows it -/
def plainWord (inFlow : Bool) : List Glyph → List Char × List Glyph
  | [] => ([], [])
  | g :: r =>
    if endsWord inFlow g.char (peek r) then ([], g :: r)
    else
      let (w, t) := plainWord inFlow r
      (g.char :: w, t)

/-- spaces and breaks after a first line break: the breaks, and what follows; nothing when a
document mark turns up at the start of a line -/
def blankLines : List Glyph → Option (List Char) × List Glyph
  | [] => (some [], [])
  | g :: r =>
    if g.char = ' ' then blankLines r
    else if isBreak g.char then
      if atDocumentMark r then (none, r)
      else
        let (bs, t) := blankLines r
        (bs.map (g.char :: ·), t)
    else (some [], g :: r)

/-- what a line break, followed by further ones, stands for in text that is folded -/
def folded (first : List Char) (further : List Char) : List Char :=
  if first ≠ ['\n'] then first ++ further
  else if further.isEmpty then [' '] else further

/-- the gap between two words -/
structure PlainGap where
  /-- what it stands for; nothing if the text ends here -/
  text : List Char
  rest : List Glyph
  /-- a line break was passed -/
  crossed : Bool

def plainGap (s : List Glyph) : PlainGap :=
  let t := dropSpaces s
  match takeBreak t with
  | ([], _) => ⟨takeChars (· = ' ') s, t, false⟩
  | (first, r) =>
    if atDocumentMark r then ⟨[], r, true⟩
    else
      match blankLines r with
      | (none, r') => ⟨[], r', true⟩
      | (some further, r') => ⟨folded first further, r', true⟩

/-- plain text behind what `gap` stands for: the text, what follows it, and whether a line break
was passed after the last word -/
def plainText (inFlow : Bool) (indent : Int) (gap : PlainGap) :
    List Char × List Glyph × Bool :=
  let s := gap.rest
  if peek s = '#' then ([], s, gap.crossed)
  else
    let (w, t) := plainWord inFlow s
    let next := plainGap t
    if w.isEmpty then ([], s, gap.crossed)
    else if next.text.isEmpty || peek next.rest = '#' ||
        (!inFlow && decide ((columnOf next.rest : Int) < indent)) then
      (gap.text ++ w, next.rest, next.crossed)
    else if next.rest.length < s.length then
      let (v, u, crossed) := plainText inFlow indent next
      (gap.text ++ w ++ v, u, crossed)
    else (gap.text ++ w, next.rest, next.crossed)
termination_by gap.rest.length

/-- the plain text that starts here -/
def plainScalar (inFlow : Bool) (indent : Int) (s : List Glyph) : List Char × List Glyph × Bool :=
  plainText inFlow indent ⟨[], s, false⟩

end BankSwitch.Yaml
