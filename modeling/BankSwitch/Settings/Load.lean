import BankSwitch.Document.Check
import BankSwitch.Document.Yaml.Value
import BankSwitch.Files
import BankSwitch.Settings.Basic

/-!
# Loading settings

A settings document is a mapping that may bind `width`, `z3_range` and `style` and nothing else;
what it leaves out is standard.  Settings come from a file if one is named, else from the file of a
target if there is one among the installed settings, else they are standard.  An empty file leaves
everything standard.
-/

namespace BankSwitch

/-! ## settings in documents -/

namespace Settings

/-- what a document must be like to hold settings -/
def check : Document.Check :=
  .kind .object [
    .property "width" (.kind .integer [.minimum 1, .maximum 4096]),
    .property "z3_range" (.kind .string [.oneOf ["size", "end"]]),
    .property "style" (.kind .string [.oneOf ["compact", "z3"]]),
    .closed ["width", "z3_range", "style"]]

/-- the width that a document stands for -/
def widthOf : Document → Width
  | .integer n => .whole n
  | .real x => .real (x.toInt?.getD 0).toNat
  | _ => standard.width

def rangeFormOf : Document → RangeForm
  | .text s => .ofName s
  | _ => standard.rangeForm

def styleOf : Document → Style
  | .text s => .ofName s
  | _ => standard.style

/-- the settings in a document, or what is wrong with the document -/
def ofDocument (d : Document) : Except String Settings :=
  match Document.worst? (check d), d with
  | some v, _ => .error v.message
  | none, .mapping es =>
    .ok ⟨⟨((Document.get? es "width").map widthOf).getD standard.width, standard.digits⟩,
      ((Document.get? es "z3_range").map rangeFormOf).getD standard.rangeForm,
      ((Document.get? es "style").map styleOf).getD standard.style⟩
  | none, _ => .ok standard

end Settings

/-! ## settings in files -/

/-- why a settings file gives no settings -/
inductive SettingsError where
  | file (fault : FileError)
  | yaml (path : String) (fault : Yaml.Error)
  /-- the document in the file does not hold settings -/
  | invalid (path reason : String)
  deriving DecidableEq

def SettingsError.message : SettingsError → String
  | .file fault => fault.message
  | .yaml path .malformed => s!"Invalid config file {path}: {Yaml.Error.malformed.message}"
  | .yaml _ fault => fault.message
  | .invalid path reason => s!"Invalid config file {path}: {reason}"

namespace Settings

/-- where settings were found -/
inductive Origin where
  /-- in a file, which may be that of a target -/
  | path (name : String)
  /-- nowhere, since the target has no file -/
  | unknownTarget (name : String)
  /-- nothing was asked for -/
  | standard
  deriving DecidableEq

/-- the settings in a document that may be missing -/
def ofContent (path : String) (d : Option Document) : Except SettingsError Settings :=
  let d := match d with
    | none | some .null => .mapping []
    | some d => d
  (ofDocument d).mapError (.invalid path)

/-- the settings in a file -/
def ofFile (fs : Files) (path : String) : Except SettingsError Settings := do
  let text ← (fs.read path).mapError .file
  let d ← (Yaml.read text).mapError (.yaml path)
  ofContent path d

/-- the settings that are installed with the program, for buses of 16, 32 and 64 lines -/
def builtin : List (String × String) :=
  [("addr16.yaml", "# 16-bit address bus\nwidth: 16\nz3_range: size\nstyle: compact\n"),
   ("addr32.yaml", "# 32-bit address bus\nwidth: 32\nz3_range: size\nstyle: compact\n"),
   ("addr64.yaml",
    "# 64-bit address bus (the default numeric domain)\nwidth: 64\nz3_range: size\nstyle: compact\n")]

/-- where installed settings are found -/
def directory (fs : Files) : List String := fs.home ++ ["configs"]

/-- files with the installed settings among them -/
def install (fs : Files) : Files :=
  { fs with entries := fs.entries ++ builtin.map fun e => (directory fs ++ [e.1], e.2) }

/-- the place of a target's settings, as seen from the installed ones -/
def targetPath (fs : Files) (target : String) : String :=
  joinPath (rootedName (directory fs)) (target ++ ".yaml")

/-- settings from a file, and where that is -/
def ofPath (fs : Files) (path : String) : Except SettingsError (Settings × Origin) :=
  (ofFile fs path).map fun s => (s, .path path)

/-- settings from a file, a target or neither, and where they were found -/
def load (fs : Files) (path target : Option String) : Except SettingsError (Settings × Origin) :=
  match path.filter (· ≠ ""), target.filter (· ≠ "") with
  | some path, _ => ofPath fs (tidyPath path)
  | none, some name =>
    let path := targetPath fs name
    if fs.holds path then ofPath fs path else .ok (standard, .unknownTarget name)
  | none, none => .ok (standard, .standard)

end Settings

end BankSwitch
