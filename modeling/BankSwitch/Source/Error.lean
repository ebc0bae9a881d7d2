import BankSwitch.Layout.Range
import BankSwitch.Settings.Basic
import BankSwitch.Source.Token

/-!
# Errors in descriptions

What can be wrong with the text of a description, and how it is worded.  Every error of the text
itself names a place in it, but for a decimal that is longer than the host reads.  Parts that were
given in place of a text may make no whole either (`BuildError`).
-/

namespace BankSwitch

/-! ## parts that make no whole -/

/-- why a chain of guards, a sequence, a switch, a partition or a component cannot be put together -/
inductive BuildError where
  | fewOperands
  | operatorCount (operands operators : Nat)
  | emptyPartition
  | emptySequence
  /-- a step of a sequence that is no primitive, by the name of its kind -/
  | notAPrimitive (kind : String)
  | noCases
  | nestedSwitch
  | noBanks
  | widthNotPositive (width : Int)
  deriving DecidableEq

def BuildError.message : BuildError → String
  | .fewOperands => "Combine needs at least two operands"
  | .operatorCount n k => s!"Combine of {n} operands needs {n - 1} operators, got {k}"
  | .emptyPartition => "Partition needs at least one range"
  | .emptySequence => "Sequence needs at least one primitive"
  | .notAPrimitive kind => s!"Sequence steps must be primitives, got {kind}"
  | .noCases => "Switch needs at least one guarded case"
  | .nestedSwitch => "Switch bodies cannot be nested switches"
  | .noBanks => "Component needs at least one bank"
  | .widthNotPositive w => s!"Component width must be positive, got {w}"

/-! ## texts that cannot be read -/

/-- a spot at which no token starts or ends -/
inductive LexicalFault where
  /-- `#` without the `x` that makes it a mark -/
  | hexMark (got : Option Char)
  /-- a mark without digits -/
  | hexDigits
  /-- a letter, numeral or underscore right behind a number -/
  | numberSuffix (c : Char)
  | strayCharacter (c : Char)
  deriving DecidableEq

/-- a token that the grammar has no use for -/
inductive GrammarFault where
  /-- another kind of token was asked for -/
  | mismatch (wanted : Token.Kind) (found : Token.Lexeme)
  | noBank
  | noRange
  | noComparison
  | noComparator
  | noOperator
  | noTranslation
  | noTerm
  | noCase
  deriving DecidableEq

inductive ReadError where
  | lexical (fault : LexicalFault) (position : Position)
  | overflow (value : Nat) (width : Int) (position : Position)
  /-- a decimal is longer than the host reads; its place is not known -/
  | decimal (fault : LongDecimal)
  | grammar (fault : GrammarFault) (position : Position) (atEnd : Bool)
  | range (malformed : Range.Malformed) (position : Position)
  /-- a number stands in the text, but the width set for it measures none -/
  | width (fault : WidthError)
  | build (fault : BuildError)
  /-- the reader was asked for more although the end of the text had been taken -/
  | exhausted
  deriving DecidableEq

namespace LexicalFault

def message : LexicalFault → String
  | .hexMark got =>
    let found := match got with
      | some c => quotedChar c
      | none => "None"
    s!"Expected 'x' after '#' in hex literal, got {found}"
  | .hexDigits => "Hex literal '#x' needs at least one digit"
  | .numberSuffix c => s!"Unexpected character {quotedChar c} in numeric literal"
  | .strayCharacter c => s!"Unexpected character: {quotedChar c}"

/-- what would have been right -/
def expected? : LexicalFault → Option String
  | .hexMark _ => some "'#x'"
  | .hexDigits => some "hex digit"
  | _ => none

end LexicalFault

namespace GrammarFault

def message : GrammarFault → String
  | .mismatch wanted found => s!"Expected '{wanted.name}', got {found.found}"
  | .noBank => "Expected at least one 'bank' in memory component"
  | .noRange => "Expected a range like '[start:end]' or '(Range base size stride)'"
  | .noComparison => "Expected a comparison against INPUT"
  | .noComparator => "Expected comparison operator"
  | .noOperator => "Expected '+', '-' or '>>' after INPUT"
  | .noTranslation =>
    "Expected a translation (NOOP, a literal, an INPUT expression or a Z3 term)"
  | .noTerm => "Expected 'Constant', 'Add', 'SubPV', 'SubVP' or 'RShift'"
  | .noCase => "Switch needs at least one guarded case before the default"

/-- what would have been right -/
def expected : GrammarFault → String
  | .mismatch wanted _ => "'" ++ wanted.name ++ "'"
  | .noBank => "'bank'"
  | .noRange => "range"
  | .noComparison => "comparison"
  | .noComparator => "'<=', '>=', '==', '!=', '=/=', '<' or '>'"
  | .noOperator => "'+', '-' or '>>'"
  | .noTranslation => "translation"
  | .noTerm => "Z3 term"
  | .noCase => "guard"

end GrammarFault

/-- the stage of reading that found an error -/
inductive Stage where
  | lexer
  | parser

def Stage.name : Stage → String
  | .lexer => "Lexer"
  | .parser => "Parser"

/-- a message with the place it is about -/
def located (stage : Stage) (p : Position) (atEnd : Bool) (message : String) : String :=
  if atEnd then
    s!"{stage.name} error at end of input (line {p.line}, column {p.column}): {message}"
  else s!"{stage.name} error at line {p.line}, column {p.column}: {message}"

/-- the message of a range that was not read from a text -/
def Range.Malformed.unlocated (m : Range.Malformed) : String :=
  s!"{Stage.parser.name} error: {m.message}"

namespace ReadError

/-- the error without its place -/
def bare : ReadError → String
  | .lexical fault _ => fault.message
  | .overflow value w _ => s!"Literal {hexText value} does not fit in {w} bits"
  | .decimal fault => fault.message
  | .grammar fault _ _ => fault.message
  | .range malformed _ => malformed.message
  | .width fault => fault.message
  | .build fault => fault.message
  | .exhausted => "'NoneType' object has no attribute 'type'"

def message (e : ReadError) : String :=
  match e with
  | .lexical _ p => located .lexer p false e.bare
  | .overflow _ _ p => located .lexer p false e.bare
  | .grammar _ p atEnd => located .parser p atEnd e.bare
  | .range _ p => located .parser p false e.bare
  | _ => e.bare

/-- the place that the error names -/
def position? : ReadError → Option Position
  | .lexical _ p => some p
  | .overflow _ _ p => some p
  | .grammar _ p _ => some p
  | .range _ p => some p
  | _ => none

/-- the text ended too early -/
def atEnd : ReadError → Bool
  | .grammar _ _ b => b
  | _ => false

end ReadError

end BankSwitch
