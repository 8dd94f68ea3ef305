import BackupConsole.Files.Path
import BackupConsole.Text.Quoted
import BackupConsole.Yaml.Token

/-!
The files a run can see, as a tree given by its named entries: every folder above an entry exists.
Relative paths start at the working folder.
-/

set_option autoImplicit false

namespace BackupConsole

structure Obstacle where
  number : Nat
  text : String
  named : Bool := true
  deriving DecidableEq, Repr

namespace Obstacle

def denied : Obstacle := ⟨13, "Permission denied", true⟩

def nameTooLong : Obstacle := ⟨36, "File name too long", true⟩

end Obstacle

/-- What stands in the way of looking entries of a folder up, and of opening an entry to read it
or to write to it. A pipe or a device is no regular file. -/
structure Access where
  searching : Option Obstacle := none
  reading : Option Obstacle := none
  writing : Option Obstacle := none
  regular : Bool := true
  deriving DecidableEq

inductive Content
  | folder (access : Access := {})
  | file (bytes : List UInt8) (access : Access := {})
  deriving DecidableEq

inductive FileProblem
  | notFound
  | notFolder
  | isFolder
  | taken
  | badName
  | blocked (o : Obstacle)
  deriving DecidableEq, Repr

namespace FileProblem

def message (problem : FileProblem) (path : String) : String :=
  match problem with
  | notFound => "[Errno 2] No such file or directory: " ++ Text.quote path
  | notFolder => "[Errno 20] Not a directory: " ++ Text.quote path
  | isFolder => "[Errno 21] Is a directory: " ++ Text.quote path
  | taken => "[Errno 17] File exists: " ++ Text.quote path
  | badName => "embedded null byte"
  | blocked o =>
    "[Errno " ++ toString o.number ++ "] " ++ o.text ++
      if o.named then ": " ++ Text.quote path else ""

/-- Problems that show no more than that there is no such file: those of a bad descriptor and of a
loop of links are among them. -/
def meansAbsent : FileProblem → Bool
  | notFound => true
  | notFolder => true
  | isFolder => false
  | taken => false
  | badName => true
  | blocked o => [2, 9, 20, 40].contains o.number

end FileProblem

/-- Entries are named by their parts below the root of the tree; the first of a name counts. Places
in `broken` cannot even be looked up. `homes` gives the home folders of users by name, that of the
user of the program under the empty name. -/
structure Files where
  homes : String → Option String
  work : List String
  entries : List (List String × Content)
  broken : List (List String × Obstacle) := []
  reader : Yaml.Reader := {}

namespace Files

def ofHome (home : String) (entries : List (List String × Content) := []) : Files :=
  { homes := fun name => if name = "" then some home else none, work := [], entries }

def longestName : Nat := 255

def longestPath : Nat := 4095

def isAbove (folder place : List String) : Bool :=
  folder.isPrefixOf place

def contentAt (f : Files) (place : List String) : Option Content :=
  match f.entries.lookup place with
  | some c => some c
  | none =>
    if place.isEmpty || f.entries.any fun (other, _) => isAbove place other then some .folder
    else none

def look (f : Files) (place : List String) : Except FileProblem Content :=
  match f.broken.lookup place, f.contentAt place with
  | some o, _ => .error (.blocked o)
  | none, some c => .ok c
  | none, none => .error .notFound

def enter (name : String) : Content → Except FileProblem Unit
  | .file _ _ => .error .notFolder
  | .folder access =>
    match access.searching with
    | some o => .error (.blocked o)
    | none =>
      if longestName < name.utf8ByteSize then .error (.blocked .nameTooLong) else .ok ()

def follow (f : Files) : List String → List String → Except FileProblem (List String × Content)
  | place, [] => (f.look place).map fun c => (place, c)
  | place, part :: rest => do
    enter part (← f.look place)
    follow f (if part = ".." then place.dropLast else place ++ [part]) rest

def start (f : Files) (p : Path) : List String := if p.root = "" then f.work else []

def locate (f : Files) (p : Path) : Except FileProblem (List String × Content) :=
  if p.hasNul then .error .badName
  else if longestPath < p.toText.utf8ByteSize then .error (.blocked .nameTooLong)
  else f.follow (f.start p) p.parts

/-- Whether the path leads to a file. A problem that means more than that there is none is one. -/
def isFile (f : Files) (p : Path) : Except FileProblem Bool :=
  match f.locate p with
  | .ok (_, .file _ access) => .ok access.regular
  | .ok (_, .folder _) => .ok false
  | .error problem => if problem.meansAbsent then .ok false else .error problem

def read (f : Files) (p : Path) : Except FileProblem (List UInt8) :=
  match f.locate p with
  | .ok (_, .file bytes access) => (access.reading.map .blocked).elim (.ok bytes) .error
  | .ok (_, .folder access) => .error ((access.reading.map .blocked).getD .isFolder)
  | .error problem => .error problem

end Files

end BackupConsole
