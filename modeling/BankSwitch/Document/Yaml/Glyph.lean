import BankSwitch.Reading
import BankSwitch.Text.Basic

/-!
# Glyphs

A YAML text as its reader sees it: characters with the place where they stand, closed by an end
mark.  Line ends of every kind but the Unicode separators are one line feed, and a byte order mark
takes no column.
-/

namespace BankSwitch.Yaml

structure Glyph where
  char : Char
  line : Nat
  column : Nat
  index : Nat
  deriving DecidableEq

/-- stands behind the last character of every text; no text may hold it -/
def endMark : Char := '\x00'

/-- the characters that a text may hold -/
def isAllowed (c : Char) : Bool :=
  let n := c.toNat
  n = 0x09 || n = 0x0a || n = 0x0d || (0x20 ≤ n && n ≤ 0x7e) || n = 0x85 ||
    (0xa0 ≤ n && n ≤ 0xd7ff) || (0xe000 ≤ n && n ≤ 0xfffd) || 0x10000 ≤ n

def isBreak (c : Char) : Bool := c = '\n' || c = '\u2028' || c = '\u2029'

def isBreakOrEnd (c : Char) : Bool := isBreak c || c = endMark

/-- what ends a word of punctuation: a space, a break or the end -/
def isGap (c : Char) : Bool := c = ' ' || isBreakOrEnd c

/-- what ends an indicator: a gap or a tab -/
def isSeparator (c : Char) : Bool := isGap c || c = '\t'

/-- letters, digits, dashes and underscores, as names of anchors and directives have them -/
def isNameChar (c : Char) : Bool := c.isAlphanum || c = '-' || c = '_'

/-- places for the characters of a text -/
def place (line column index : Nat) : List Char → List Glyph
  | [] => [⟨endMark, line, column, index⟩]
  | c :: r =>
    ⟨c, line, column, index⟩ ::
      (if isBreak c then place (line + 1) 0 (index + 1) r
      else if c = '\ufeff' then place line column (index + 1) r
      else place line (column + 1) (index + 1) r)

/-- the glyphs of a text -/
def glyphs (text : List Char) : List Glyph :=
  place 0 0 0 ((unifyLineEnds text).map fun c => if c = '\x85' then '\n' else c)

/-- the character that stands `i` places ahead -/
def ahead (s : List Glyph) (i : Nat) : Char :=
  match s[i]? with
  | some g => g.char
  | none => endMark

/-- the next character -/
def peek (s : List Glyph) : Char := ahead s 0

def columnOf : List Glyph → Nat
  | g :: _ => g.column
  | [] => 0

/-- drops glyphs from the front as long as their characters pass -/
def dropChars (p : Char → Bool) (s : List Glyph) : List Glyph := s.dropWhile fun g => p g.char

/-- the characters at the front that pass -/
def takeChars (p : Char → Bool) (s : List Glyph) : List Char :=
  (s.takeWhile fun g => p g.char).map Glyph.char

def dropSpaces (s : List Glyph) : List Glyph := dropChars (· = ' ') s

theorem length_dropChars_le (p : Char → Bool) (s : List Glyph) :
    (dropChars p s).length ≤ s.length :=
  length_dropWhile_le _ s

/-- drops a comment, if one stands here, up to the end of its line -/
def dropComment (s : List Glyph) : List Glyph :=
  if peek s = '#' then dropChars (fun c => !isBreakOrEnd c) s else s

theorem length_dropComment_le (s : List Glyph) : (dropComment s).length ≤ s.length := by
  unfold dropComment
  split
  · exact length_dropChars_le _ s
  · exact Nat.le_refl _

/-- a line break, if one stands here, and what follows it -/
def takeBreak (s : List Glyph) : List Char × List Glyph :=
  match s with
  | g :: r => if isBreak g.char then ([g.char], r) else ([], s)
  | [] => ([], [])

/-- the line starts with a mark that separates documents -/
def atDocumentMark (s : List Glyph) : Bool :=
  let three := (s.take 3).map Glyph.char
  (three = ['-', '-', '-'] || three = ['.', '.', '.']) && isSeparator (ahead s 3)

/-- the next character that is neither blank nor part of a comment, and whether a line break stood
before it -/
def nextContent (s : List Glyph) : List Glyph × Bool :=
  match _h : dropComment (dropSpaces s) with
  | g :: r => if isBreak g.char then ((nextContent r).1, true) else (g :: r, false)
  | [] => ([], false)
termination_by s.length
decreasing_by
  have h1 := length_dropComment_le (dropSpaces s)
  have h2 := length_dropChars_le (· = ' ') s
  rw [_h, List.length_cons] at h1
  unfold dropSpaces at h1
  omega

end BankSwitch.Yaml
