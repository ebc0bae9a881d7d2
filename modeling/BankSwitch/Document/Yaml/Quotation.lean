import BankSwitch.Document.Yaml.Plain
import BankSwitch.Document.Yaml.Token

/-!
# Quoted scalars

Text in single quotes, where a quote is written twice, or in double quotes, where a backslash starts
an escape.  Both run on over lines as plain text does.
-/

namespace BankSwitch.Yaml

/-- the character of an escape of one character -/
def escaped? (c : Char) : Option Char :=
  match c with
  | '0' => some '\x00'
  | 'a' => some '\x07'
  | 'b' => some '\x08'
  | 't' => some '\t'
  | '\t' => some '\t'
  | 'n' => some '\n'
  | 'v' => some '\x0b'
  | 'f' => some '\x0c'
  | 'r' => some '\r'
  | 'e' => some '\x1b'
  | ' ' => some ' '
  | '"' => some '"'
  | '\\' => some '\\'
  | '/' => some '/'
  | 'N' => some '\x85'
  | '_' => some '\xa0'
  | 'L' => some '\u2028'
  | 'P' => some '\u2029'
  | _ => none

/-- how many digits an escape for a code has -/
def codeLength? (c : Char) : Option Nat :=
  match c with
  | 'x' => some 2
  | 'u' => some 4
  | 'U' => some 8
  | _ => none

/-- the value of hexadecimal digits -/
def hexValue (ds : List Char) : Nat :=
  ds.foldl (fun n d => 16 * n + (CharClass.digitValue? d).getD 0) 0

/-- the character with a code; half a surrogate pair becomes the replacement character -/
def charOf (code : Nat) : Except Error Char :=
  if code < 0x110000 then .ok (if code.isValidChar then Char.ofNat code else '\ufffd')
  else if code < 0x80000000 then .error (.badCode code)
  else .error (.hugeCode code)

/-- blanks and breaks inside quotes after a first line break: the breaks, and what follows -/
def quotedBreaks (s : List Glyph) : Except Error (List Char × List Glyph) :=
  if atDocumentMark s then .error .malformed
  else
    match _h : dropChars (fun c => c = ' ' || c = '\t') s with
    | g :: r =>
      if isBreak g.char then do
        let (bs, t) ← quotedBreaks r
        return (g.char :: bs, t)
      else .ok ([], g :: r)
    | [] => .ok ([], [])
termination_by s.length
decreasing_by
  have h1 := length_dropChars_le (fun c => c = ' ' || c = '\t') s
  rw [_h, List.length_cons] at h1
  omega

/-- what a backslash and the character behind it stand for, and what follows -/
def escapeAt (r : List Glyph) : Except Error (List Char × List Glyph) :=
  let c := peek r
  let t := r.drop 1
  match escaped? c, codeLength? c with
  | some e, _ => .ok ([e], t)
  | none, some n =>
    let ds := (t.take n).map Glyph.char
    if ds.length = n && ds.all CharClass.isHexDigit then do
      let d ← charOf (hexValue ds)
      return ([d], t.drop n)
    else .error .malformed
  | none, none =>
    if isBreak c then quotedBreaks t else .error .malformed

/-- what white space stands for inside quotes, and what follows it -/
def quotedGap (s : List Glyph) : Except Error (List Char × List Glyph) :=
  let isBlank (c : Char) : Bool := c = ' ' || c = '\t'
  let t := dropChars isBlank s
  match takeBreak t with
  | ([], _) => if peek t = endMark then .error .malformed else .ok (takeChars isBlank s, t)
  | (first, r) => do
    let (further, u) ← quotedBreaks r
    return (folded first further, u)

/-- one piece of text inside quotes, and what follows it; nothing at the closing quote -/
def quotedPiece (double : Bool) (s : List Glyph) : Except Error (Option (List Char × List Glyph)) :=
  let c := peek s
  let r := s.drop 1
  if double then
    if c = '"' then .ok none
    else if c = '\\' then (escapeAt r).map some
    else if isSeparator c then (quotedGap s).map some
    else .ok (some ([c], r))
  else if c = '\'' then
    if peek r = '\'' then .ok (some (['\''], r.drop 1)) else .ok none
  else if isSeparator c then (quotedGap s).map some
  else .ok (some ([c], r))

/-- the text up to the closing quote, and what follows the quote -/
def quotedText (double : Bool) (s : List Glyph) : Except Error (List Char × List Glyph) :=
  match quotedPiece double s with
  | .error e => .error e
  | .ok none => .ok ([], s.drop 1)
  | .ok (some (cs, r)) =>
    if r.length < s.length then do
      let (ds, t) ← quotedText double r
      return (cs ++ ds, t)
    else .error .malformed
termination_by s.length

end BankSwitch.Yaml
