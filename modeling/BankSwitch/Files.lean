import BankSwitch.Text.Basic

/-!
# Files

The files that a program finds: texts under paths, each the list of its parts from the root on.  The
directories are the working directory, the one that the program is installed in, those above them, and
those that some file is in.  A name is looked up part by part, from the root if it starts with a slash
and else from the working directory; a part that is empty or a single dot stays where it is, two dots go
up, and nothing can be looked up behind a file.
-/

namespace BankSwitch

/-- why a file cannot be read or written -/
inductive FileError where
  | missing (name : String)
  | directory (name : String)
  /-- the path leads through a file -/
  | notDirectory (name : String)
  /-- no path holds a null character -/
  | nullByte
  deriving DecidableEq

def FileError.message : FileError → String
  | .missing name => "[Errno 2] No such file or directory: " ++ quoted name
  | .directory name => "[Errno 21] Is a directory: " ++ quoted name
  | .notDirectory name => "[Errno 20] Not a directory: " ++ quoted name
  | .nullByte => "embedded null byte"

/-- the parts of a path between slashes -/
def pathParts (name : String) : List String :=
  (name.toList.splitOn '/').map String.ofList

/-- a part that stays where it is -/
def isIdle (part : String) : Bool := part = "" || part = "."

/-- a path without its idle parts; a path without any other part is a dot -/
def tidyPath (name : String) : String :=
  let root := if "///".toList.isPrefixOf name.toList then "/"
    else if "//".toList.isPrefixOf name.toList then "//"
    else if "/".toList.isPrefixOf name.toList then "/" else ""
  let body := root ++ "/".intercalate ((pathParts name).filter fun p => !isIdle p)
  if body = "" then "." else body

/-- a name behind a directory, tidy; a name that starts at the root stands by itself -/
def joinPath (directory name : String) : String :=
  if "/".toList.isPrefixOf name.toList then tidyPath name else tidyPath (directory ++ "/" ++ name)

/-- the last part of a path that is not idle -/
def lastPart (name : String) : String :=
  (((pathParts name).filter fun p => !isIdle p).getLast?).getD ""

/-- one level up; there is nothing above the root -/
def parentPath (path : List String) : List String := path.dropLast

/-- the path of the file that a name without two dots stands for, seen from a directory -/
def filePath (here : List String) (name : String) : List String :=
  let parts := (pathParts name).filter fun p => !isIdle p
  if "/".toList.isPrefixOf name.toList then parts else here ++ parts

/-- a path from the root as a name -/
def rootedName (path : List String) : String := "/" ++ "/".intercalate path

/-- a path as a name that is looked up from a directory -/
def pathName (here path : List String) : String :=
  if here.isPrefixOf path then "/".intercalate (path.drop here.length) else rootedName path

/-- texts under paths, as a program finds them -/
structure Files where
  entries : List (List String × String)
  /-- the working directory -/
  here : List String
  /-- where the program is installed -/
  home : List String
  deriving DecidableEq

namespace Files

/-- files that are named as seen from the working directory -/
def ofNames (here home : List String) (named : List (String × String)) : Files :=
  ⟨named.map fun e => (filePath here e.1, e.2), here, home⟩

/-- the text of the file at a path -/
def get? (fs : Files) (path : List String) : Option String :=
  (fs.entries.find? fun e => e.1 = path).map Prod.snd

/-- a directory that is known, or some file is below the path -/
def isDirectory (fs : Files) (path : List String) : Bool :=
  path.isPrefixOf fs.here || path.isPrefixOf fs.home ||
    fs.entries.any fun e => path.isPrefixOf e.1 && e.1 ≠ path

/-- the file at a path gets a text -/
def put (path : List String) (text : String) :
    List (List String × String) → List (List String × String)
  | [] => [(path, text)]
  | e :: es => if e.1 = path then (path, text) :: es else e :: put path text es

def insert (fs : Files) (path : List String) (text : String) : Files :=
  { fs with entries := put path text fs.entries }

/-- what a path leads to -/
inductive Place where
  | file (path : List String)
  | directory
  /-- nothing, in a directory that is there -/
  | vacant (path : List String)
  /-- a file or nothing, with a slash behind it -/
  | slashed (isFile : Bool)
  /-- something behind a file -/
  | behindFile
  /-- something in a directory that is not there -/
  | nowhere
  deriving DecidableEq

/-- looks up the parts of a path from a directory -/
def walk (fs : Files) (here : List String) : List String → Place
  | [] => .directory
  | p :: ps =>
    if isIdle p then fs.walk here ps
    else if p = ".." then fs.walk (parentPath here) ps
    else
      let next := here ++ [p]
      if fs.isDirectory next then fs.walk next ps
      else
        let isFile := (fs.get? next).isSome
        if ps.isEmpty then if isFile then .file next else .vacant next
        else if ps.all (· = "") then .slashed isFile
        else if isFile then .behindFile else .nowhere

/-- what a name leads to; the empty name leads nowhere -/
def locate (fs : Files) (name : String) : Except FileError Place :=
  if name.toList.contains '\x00' then .error .nullByte
  else match pathParts name with
    | [] => .ok .nowhere
    | [""] => .ok .nowhere
    | "" :: ps => .ok (fs.walk [] ps)
    | ps => .ok (fs.walk fs.here ps)

/-- the text of a file, with its line ends unified -/
def read (fs : Files) (name : String) : Except FileError String := do
  match ← fs.locate name with
  | .file path => return readableText ((fs.get? path).getD "")
  | .directory => throw (.directory name)
  | .behindFile => throw (.notDirectory name)
  | .slashed isFile => throw (if isFile then .notDirectory name else .missing name)
  | .vacant _ | .nowhere => throw (.missing name)

/-- the files after a text was written -/
def write (fs : Files) (name text : String) : Except FileError Files := do
  match ← fs.locate name with
  | .file path | .vacant path => return fs.insert path text
  | .directory | .slashed _ => throw (.directory name)
  | .behindFile => throw (.notDirectory name)
  | .nowhere => throw (.missing name)

/-- a name leads to a file or a directory -/
def holds (fs : Files) (name : String) : Bool :=
  match fs.locate name with
  | .ok (.file _) => true
  | .ok .directory => true
  | _ => false

/-- the files that are new in `after` or have another text there -/
def changes (fs after : Files) : List (String × String) :=
  (after.entries.filter fun e => fs.get? e.1 ≠ some e.2).map fun e => (pathName fs.here e.1, e.2)

end Files

end BankSwitch
