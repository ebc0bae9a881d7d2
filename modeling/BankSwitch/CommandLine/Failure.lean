import BankSwitch.Component.Reader
import BankSwitch.Description.Fields
import BankSwitch.Description.Printer
import BankSwitch.Guard.Binding
import BankSwitch.Settings.Load
import BankSwitch.Trace.Basic

/-!
# Failures

Why a command comes to no end of its own.  Most failures are put to the user in one line; those that
no command expects are left to whoever runs the program.
-/

namespace BankSwitch

inductive Failure where
  | settings (fault : SettingsError)
  | file (fault : FileError)
  | read (fault : ReadError)
  | trace (fault : TraceError)
  | number (fault : IntegerText.Fault)
  | binding (fault : BindingError)
  | print (fault : PrintError Empty)
  | eval (fault : EvalError Empty)

namespace Failure

def message : Failure → String
  | .settings fault => fault.message
  | .file fault => fault.message
  | .read fault => fault.message
  | .trace fault => fault.message
  | .number fault => fault.message
  | .binding fault => fault.message
  | .print fault => fault.message
  | .eval fault => fault.message

/-- the file that could not be used -/
def file? : Failure → Option FileError
  | .settings (.file fault) => some fault
  | .file fault => some fault
  | .trace (.file fault) => some fault
  | _ => none

/-- the text is at fault, not the width it is read under -/
def isTextFault : ReadError → Bool
  | .lexical _ _ | .overflow _ _ _ | .grammar _ _ _ | .range _ _ => true
  | _ => false

def isExpectedFile : FileError → Bool
  | .missing _ | .nullByte => true
  | _ => false

def isExpectedYaml : Yaml.Error → Bool
  | .malformed | .badCode _ | .badInteger _ | .badReal _ | .badDate _ => true
  | _ => false

def isExpectedWidth : WidthError → Bool
  | .negative => true
  | .real => false

/-- a failure that every command puts to the user -/
def isExpected : Failure → Bool
  | .settings (.file fault) | .file fault | .trace (.file fault) => isExpectedFile fault
  | .settings (.yaml _ fault) => isExpectedYaml fault
  | .settings (.invalid _ _) => true
  | .read (.width fault) => isExpectedWidth fault
  | .read .exhausted => false
  | .read _ => true
  | .trace _ => true
  | .number _ => true
  | .binding _ => true
  | .print (.width fault) => isExpectedWidth fault
  | .print (.notAGuard _) | .print (.noTerm _) => false
  | .print _ => true
  | .eval (.notAGuard _) | .eval (.notAPrimitive _) => false
  | .eval _ => true

/-- the line that puts an expected failure to the user -/
def report (e : Failure) : String :=
  match e.file? with
  | some (.missing name) => s!"Error: File '{name}' not found"
  | _ => "Error: " ++ e.message

end Failure

end BankSwitch
