import BankSwitch.CommandLine.Arguments
import BankSwitch.Settings.Basic

/-!
# Commands

The commands of the program and the words that give them.  Options for all commands come before the
command's name, its own options and operands behind it.  `parse` and `smt-constraints` read their
words a second time, together with the options for settings, so that a file name that looks like an
option is taken for one.
-/

namespace BankSwitch

open Arguments

inductive Field where
  | help
  | config
  | target
  | verbose
  | command
  | file
  | addresses
  | binding
  | trace
  | style
  | output
  deriving DecidableEq

/-- what a command is to do -/
inductive Task where
  | parse (file : String) (details : Bool)
  | eval (file : String) (addresses bindings : List String)
  | verify (file trace : String)
  /-- print in a style, or in the style of the settings -/
  | emit (file : String) (style : Option Style) (output : Option String)
  | constraints (file : String) (output : Option String)
  | version
  deriving DecidableEq

structure Command where
  /-- the settings file -/
  config : Option String
  /-- the target whose settings to take -/
  target : Option String
  verbose : Bool
  task : Task
  deriving DecidableEq

/-- why words give no command -/
inductive Exit where
  /-- help was asked for -/
  | help
  | misuse
  deriving DecidableEq

def Exit.status : Exit → Nat
  | .help => 0
  | .misuse => 2

/-! ## forms -/

def helpOption : Opt Field := ⟨["-h", "--help"], .help, false⟩
def configOption : Opt Field := ⟨["--config"], .config, true⟩
def targetOption : Opt Field := ⟨["--target"], .target, true⟩
def verboseOption : Opt Field := ⟨["-v", "--verbose"], .verbose, false⟩

def mainForm : Form Field :=
  ⟨[helpOption, configOption, targetOption, verboseOption], [(.command, .command)]⟩

def parseForm : Form Field := ⟨[helpOption, verboseOption], [(.file, .one)]⟩

def evalForm : Form Field :=
  ⟨[helpOption, ⟨["--input"], .binding, true⟩], [(.file, .one), (.addresses, .many)]⟩

def verifyForm : Form Field := ⟨[helpOption], [(.file, .one), (.trace, .one)]⟩

def emitForm : Form Field :=
  ⟨[helpOption, ⟨["--style"], .style, true⟩, ⟨["-o", "--output"], .output, true⟩],
    [(.file, .one)]⟩

def constraintsForm : Form Field := ⟨[helpOption], [(.file, .one), (.output, .optional)]⟩

def versionForm : Form Field := ⟨[helpOption], []⟩

/-- `parse` with the options for settings -/
def fullParseForm : Form Field :=
  ⟨[helpOption, verboseOption, configOption, targetOption], [(.file, .one)]⟩

/-- `smt-constraints` with the options for settings -/
def fullConstraintsForm : Form Field :=
  ⟨[helpOption, configOption, targetOption], [(.file, .one), (.output, .optional)]⟩

/-! ## values -/

abbrev Found := List (Field × List String)

namespace Found

def has (f : Found) (k : Field) : Bool := f.any fun e => e.1 = k

/-- everything that was given for a field -/
def all (f : Found) (k : Field) : List (List String) :=
  (f.filter fun e => e.1 = k).map Prod.snd

/-- the value of a field that was given last, if that is not empty -/
def last? (f : Found) (k : Field) : Option String :=
  match (f.all k).getLast? with
  | some [v] => if v = "" then none else some v
  | _ => none

/-- the value of an operand -/
def operand (f : Found) (k : Field) : String :=
  match (f.all k).getLast? with
  | some [v] => v
  | _ => ""

/-- everything that was given for a field, in one list -/
def values (f : Found) (k : Field) : List String := (f.all k).flatten

end Found

/-- the styles that may be asked for -/
def styleNames : List String := [Style.compact.name, Style.terms.name]

/-- what the fields mean, one after the other, until one ends the reading -/
def firstExit : Found → Option Exit
  | [] => none
  | (.help, _) :: _ => some .help
  | (.style, vs) :: f => if vs.all styleNames.contains then firstExit f else some .misuse
  | _ :: f => firstExit f

/-- what words mean in a form, if nothing in them ends the reading -/
def readForm (form : Form Field) (words : List String) : Except Exit Found :=
  let u := form.read words
  match firstExit u.found with
  | some e => .error e
  | none => if u.isFaulty then .error .misuse else .ok u.found

/-! ## commands -/

/-- the words for the settings options -/
def settingsWords (config target : Option String) : List String :=
  let words (name : String) (v : Option String) : List String :=
    match v with
    | some v => [name, v]
    | none => []
  words "--config" config ++ words "--target" target

/-- the words of a task that reads them a second time, and their form -/
def fullWords (config target : Option String) : Task → Option (Form Field × List String)
  | .parse file details =>
    some (fullParseForm, file :: settingsWords config target ++ if details then ["-v"] else [])
  | .constraints file output =>
    some (fullConstraintsForm, file :: output.toList ++ settingsWords config target)
  | _ => none

/-- the task with the given name -/
def readTask (name : String) (words : List String) : Except Exit Task :=
  if name = "parse" then do
    let f ← readForm parseForm words
    return .parse (f.operand .file) (f.has .verbose)
  else if name = "eval" then do
    let f ← readForm evalForm words
    return .eval (f.operand .file) (f.values .addresses) (f.values .binding)
  else if name = "verify" then do
    let f ← readForm verifyForm words
    return .verify (f.operand .file) (f.operand .trace)
  else if name = "emit" then do
    let f ← readForm emitForm words
    return .emit (f.operand .file) ((f.last? .style).map .ofName) (f.last? .output)
  else if name = "smt-constraints" then do
    let f ← readForm constraintsForm words
    return .constraints (f.operand .file) (f.last? .output)
  else if name = "version" then do
    let _ ← readForm versionForm words
    return .version
  else .error .misuse

/-- a command whose words are read a second time, with what the second reading found -/
def Command.reread (c : Command) : Except Exit Command :=
  match fullWords c.config c.target c.task with
  | none => .ok c
  | some (form, words) => do
    let f ← readForm form words
    let task := match c.task with
      | .parse _ _ => .parse (f.operand .file) (f.has .verbose)
      | .constraints _ _ => .constraints (f.operand .file) (f.last? .output)
      | t => t
    return { c with config := f.last? .config, target := f.last? .target, task := task }

/-- the command that words give; nothing if they name none -/
def Command.ofWords (words : List String) : Except Exit (Option Command) := do
  let u := mainForm.read words
  match firstExit u.found with
  | some e => throw e
  | none =>
    let f : Found := u.found
    match (f.all .command).getLast? with
    | some (name :: rest) =>
      let task ← readTask name rest
      if u.isFaulty then throw .misuse
      else
        let c ← Command.reread ⟨f.last? .config, f.last? .target, f.has .verbose, task⟩
        return some c
    | _ => if u.isFaulty then throw .misuse else return none

end BankSwitch
