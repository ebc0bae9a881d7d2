import BankSwitch.Document.Yaml.Quotation
import BankSwitch.Document.Yaml.Token

/-!
# Anchors, tags and directives

What stands around the content of a YAML text: names given to nodes, names of their types, and lines
that say how a document is to be read.
-/

namespace BankSwitch.Yaml

/-- a name, not empty, and what follows it -/
def takeName (s : List Glyph) : Except Error (List Char × List Glyph) :=
  let name := takeChars isNameChar s
  if name.isEmpty then .error .malformed else .ok (name, dropChars isNameChar s)

/-- characters that may follow the name of an anchor or alias -/
def endsAnchor (c : Char) : Bool :=
  isSeparator c || "?:,]\x7d%@\x60".toList.contains c

/-- the name behind the mark of an anchor or alias -/
def anchorName (s : List Glyph) : Except Error (String × List Glyph) := do
  let (name, r) ← takeName s
  if endsAnchor (peek r) then return (String.ofList name, r) else .error .malformed

/-! ## tags -/

def isTagChar (c : Char) : Bool :=
  c.isAlphanum || "-;/?:@&=+$,_.!~*'()[]".toList.contains c

/-- the bytes that escapes of two hexadecimal digits stand for -/
def escapedBytes (s : List Glyph) : Except Error (List UInt8 × List Glyph) :=
  match s with
  | p :: a :: b :: r =>
    if p.char = '%' then
      if CharClass.isHexDigit a.char && CharClass.isHexDigit b.char then do
        let (bytes, t) ← escapedBytes r
        return (UInt8.ofNat (hexValue [a.char, b.char]) :: bytes, t)
      else .error .malformed
    else .ok ([], s)
  | p :: _ => if p.char = '%' then .error .malformed else .ok ([], s)
  | [] => .ok ([], [])

/-- the text of a tag, and what follows it; bytes that escapes stand for must be text -/
def tagText (s : List Glyph) : Except Error (List Char × List Glyph) :=
  if peek s = '%' then do
    let (bytes, r) ← escapedBytes s
    match String.fromUTF8? ⟨bytes.toArray⟩ with
    | none => .error .malformed
    | some t =>
      if r.length < s.length then
        let (more, u) ← tagText r
        return (t.toList ++ more, u)
      else .error .malformed
  else
    let here := takeChars isTagChar s
    let r := dropChars isTagChar s
    if here.isEmpty then .ok ([], s)
    else if r.length < s.length then do
      let (more, u) ← tagText r
      return (here ++ more, u)
    else .error .malformed
termination_by s.length

/-- the text of a tag, which may not be empty -/
def tagSuffix (s : List Glyph) : Except Error (String × List Glyph) := do
  let (t, r) ← tagText s
  if r.length < s.length then return (String.ofList t, r) else .error .malformed

/-- a tag handle: an exclamation mark, or a name between two of them -/
def tagHandle (s : List Glyph) : Except Error (String × List Glyph) :=
  if peek s ≠ '!' then .error .malformed
  else
    let r := s.drop 1
    if peek r = ' ' then .ok ("!", r)
    else
      let name := takeChars isNameChar r
      let t := dropChars isNameChar r
      if peek t = '!' then .ok (String.ofList ('!' :: (name ++ ['!'])), t.drop 1)
      else .error .malformed

/-- the tag that starts here with an exclamation mark -/
def tagAt (s : List Glyph) : Except Error (Tag × List Glyph) := do
  let r := s.drop 1
  let (tag, t) ←
    if peek r = '<' then do
      let (suffix, t) ← tagSuffix (r.drop 1)
      if peek t = '>' then pure (Tag.mk none suffix, t.drop 1) else .error .malformed
    else if isSeparator (peek r) then pure (Tag.mk none "!", r)
    else if (takeChars (fun c => !isGap c) r).contains '!' then do
      let (handle, t) ← tagHandle s
      let (suffix, u) ← tagSuffix t
      pure (Tag.mk (some handle) suffix, u)
    else do
      let (suffix, t) ← tagSuffix r
      pure (Tag.mk (some "!") suffix, t)
  if isGap (peek t) then return (tag, t) else .error .malformed

/-! ## directives -/

/-- digits, at least one, and what follows them -/
def takeDigits (s : List Glyph) : Except Error (Nat × List Glyph) :=
  let ds := takeChars Char.isDigit s
  if ds.isEmpty then .error .malformed
  else .ok (ds.foldl (fun n d => 10 * n + (d.toNat - '0'.toNat)) 0, dropChars Char.isDigit s)

/-- major and minor version -/
def versionDirective (s : List Glyph) : Except Error (Directive × List Glyph) := do
  let (major, r) ← takeDigits (dropSpaces s)
  if peek r ≠ '.' then .error .malformed
  else
    let (_, t) ← takeDigits (r.drop 1)
    if isGap (peek t) then return (.version major, t) else .error .malformed

/-- a handle and what it stands for -/
def handleDirective (s : List Glyph) : Except Error (Directive × List Glyph) := do
  let (handle, r) ← tagHandle (dropSpaces s)
  if peek r ≠ ' ' then .error .malformed
  else
    let (stem, t) ← tagSuffix (dropSpaces r)
    if isGap (peek t) then return (.handle handle stem, t) else .error .malformed

/-- the directive that starts here with a percent sign, and what follows it on the next line -/
def directiveAt (s : List Glyph) : Except Error (Directive × List Glyph) := do
  let (name, r) ← takeName (s.drop 1)
  if !isGap (peek r) then .error .malformed
  else
    let (d, t) ←
      if name = ['Y', 'A', 'M', 'L'] then versionDirective r
      else if name = ['T', 'A', 'G'] then handleDirective r
      else pure (Directive.unknown, dropChars (fun c => !isBreakOrEnd c) r)
    let u := dropComment (dropSpaces t)
    if isBreakOrEnd (peek u) then return (d, (takeBreak u).2) else .error .malformed

end BankSwitch.Yaml
