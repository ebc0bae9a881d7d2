import BankSwitch.Text.Integer

/-!
# YAML tokens and errors

The words of a YAML text.  Indentation has become tokens: a block collection starts with a token of
its own and ends with `blockEnd`.  Text that gives no token is a `fault`, the last token there is: it
is not YAML, or it holds a scalar that is not what its tag says.
-/

namespace BankSwitch.Yaml

/-! ## errors -/

inductive Error where
  /-- the text is not YAML, or it uses a tag that stands for nothing -/
  | malformed
  /-- an escape for a code that no character has -/
  | badCode (code : Nat)
  /-- an escape for a code that has more than 31 bits -/
  | hugeCode (code : Nat)
  | badInteger (fault : IntegerText.Fault)
  | badReal (text : String)
  /-- an empty number -/
  | emptyNumber
  | badTruth (text : String)
  /-- text that has not the form of a date -/
  | notADate
  /-- a mapping that should be a date -/
  | mappingForDate
  /-- text of the form of a date that is no day or no time of day -/
  | badDate (reason : String)
  deriving DecidableEq

def Error.message : Error → String
  | .malformed => "not a YAML document"
  | .badCode _ => "chr() arg not in range(0x110000)"
  | .hugeCode _ => "Python int too large to convert to C int"
  | .badInteger fault => fault.message
  | .badReal text => "could not convert string to float: " ++ quoted text
  | .emptyNumber => "string index out of range"
  | .badTruth text => quoted text
  | .notADate => "'NoneType' object has no attribute 'groupdict'"
  | .mappingForDate => "expected string or bytes-like object, got 'list'"
  | .badDate reason => reason

/-! ## tokens -/

/-- a tag as it is written: handle and rest, or no handle when the tag is given in full -/
structure Tag where
  handle : Option String
  suffix : String
  deriving DecidableEq

inductive Directive where
  /-- the major version that the document is written for -/
  | version (major : Nat)
  /-- what a tag handle stands for -/
  | handle (name stem : String)
  | unknown
  deriving DecidableEq

inductive Token where
  | directive (d : Directive)
  | documentStart
  | documentEnd
  | blockSequenceStart
  | blockMappingStart
  | blockEnd
  | flowSequenceStart
  | flowSequenceEnd
  | flowMappingStart
  | flowMappingEnd
  | blockEntry
  | flowEntry
  | key
  | value
  | alias (name : String)
  | anchor (name : String)
  | tag (t : Tag)
  /-- text, and whether it stands there without quotes or a block header -/
  | scalar (text : String) (plain : Bool)
  /-- nothing more can be read from here on -/
  | fault (e : Error)
  deriving DecidableEq

end BankSwitch.Yaml
