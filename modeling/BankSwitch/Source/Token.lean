/-!
# Tokens and their places

A place in a text is a line and a column, both counted from one; a line feed ends a line, and every
other character takes one column.

Tokens are the words, symbols and numbers of a description.  `Kind` says what a token counts as in the
grammar, `Lexeme` also how it was spelled or which number it is.
-/

namespace BankSwitch

/-! ## places -/

structure Position where
  line : Nat
  column : Nat
  deriving DecidableEq

namespace Position

def start : Position := ⟨1, 1⟩

/-- the place behind a character -/
def advance (p : Position) (c : Char) : Position :=
  if c = '\n' then ⟨p.line + 1, 1⟩ else ⟨p.line, p.column + 1⟩

/-- the place behind a text -/
def after (p : Position) (cs : List Char) : Position := cs.foldl advance p

theorem after_nil (p : Position) : p.after [] = p := rfl

theorem after_cons (p : Position) (c : Char) (cs : List Char) :
    p.after (c :: cs) = (p.advance c).after cs := rfl

theorem after_append (p : Position) (a b : List Char) :
    p.after (a ++ b) = (p.after a).after b := List.foldl_append

end Position

/-! ## tokens -/

namespace Token

inductive Kind where
  | memory
  | bank
  | layout
  | translation
  | switch
  | input
  | noop
  | range
  | constant
  | add
  | subFrom
  | sub
  | shiftRight
  | identifier
  | number
  | leftBrace
  | rightBrace
  | leftParen
  | rightParen
  | leftBracket
  | rightBracket
  | comma
  | colon
  | semicolon
  | plus
  | minus
  | shift
  | arrow
  | and
  | or
  | bang
  | atMost
  | atLeast
  | equal
  | unequal
  | below
  | above
  | endOfInput
  deriving DecidableEq

/-- the name of a kind in messages; for words and symbols their usual spelling -/
def Kind.name : Kind → String
  | .memory => "memory"
  | .bank => "bank"
  | .layout => "layout"
  | .translation => "translation"
  | .switch => "switch"
  | .input => "INPUT"
  | .noop => "NOOP"
  | .range => "Range"
  | .constant => "Constant"
  | .add => "Add"
  | .subFrom => "SubPV"
  | .sub => "SubVP"
  | .shiftRight => "RShift"
  | .identifier => "identifier"
  | .number => "number"
  | .leftBrace => "\x7b"
  | .rightBrace => "\x7d"
  | .leftParen => "("
  | .rightParen => ")"
  | .leftBracket => "["
  | .rightBracket => "]"
  | .comma => ","
  | .colon => ":"
  | .semicolon => ";"
  | .plus => "+"
  | .minus => "-"
  | .shift => ">>"
  | .arrow => "->"
  | .and => "&&"
  | .or => "||"
  | .bang => "!"
  | .atMost => "<="
  | .atLeast => ">="
  | .equal => "=="
  | .unequal => "!="
  | .below => "<"
  | .above => ">"
  | .endOfInput => "end of input"

inductive Lexeme where
  /-- a word or symbol as it stands in the text -/
  | spelled (kind : Kind) (spelling : String)
  | number (value : Nat)
  | endOfInput
  deriving DecidableEq

namespace Lexeme

def kind : Lexeme → Kind
  | .spelled k _ => k
  | .number _ => .number
  | .endOfInput => .endOfInput

/-- the lexeme as a message names what it found -/
def found : Lexeme → String
  | .spelled _ s => "'" ++ s ++ "'"
  | .number n => "'" ++ toString n ++ "'"
  | .endOfInput => "end of input"

end Lexeme

end Token

structure Token where
  lexeme : Token.Lexeme
  position : Position
  deriving DecidableEq

def Token.kind (t : Token) : Token.Kind := t.lexeme.kind

/-- the end of a text -/
def Token.atEnd (p : Position) : Token := ⟨.endOfInput, p⟩

/-! ## words and symbols -/

namespace Token

/-- the words with a meaning of their own; `Range` may be written in any case and is not among
them -/
def keywords : List Kind :=
  [.memory, .bank, .layout, .translation, .switch, .input, .noop, .constant, .add, .subFrom, .sub,
   .shiftRight]

/-- what a word counts as -/
def wordKind (word : List Char) : Kind :=
  if word.map Char.toLower = "range".toList then .range
  else (keywords.find? fun k => k.name.toList = word).getD .identifier

/-- the symbols by their spellings; no spelling stands before a longer one that it begins -/
def symbols : List (List Char × Kind) :=
  [(['=', '/', '='], .unequal), (['<', '='], .atMost), (['>', '='], .atLeast),
   (['=', '='], .equal), (['!', '='], .unequal), (['>', '>'], .shift), (['-', '>'], .arrow),
   (['&', '&'], .and), (['|', '|'], .or), (['\x7b'], .leftBrace), (['\x7d'], .rightBrace),
   (['('], .leftParen), ([')'], .rightParen), (['['], .leftBracket), ([']'], .rightBracket),
   ([','], .comma), ([':'], .colon), ([';'], .semicolon), (['+'], .plus), (['-'], .minus),
   (['!'], .bang), (['<'], .below), (['>'], .above)]

/-- the longest symbol at the front of a text -/
def symbolAt? (s : List Char) : Option (List Char × Kind) :=
  symbols.find? fun m => m.1.isPrefixOf s

end Token

end BankSwitch
