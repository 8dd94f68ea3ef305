import BackupConsole.Text.Lines

set_option autoImplicit false

namespace BackupConsole

structure Path where
  root : String
  parts : List String
  deriving DecidableEq, Repr

namespace Path

def leadingSlashes (cs : List Char) : Nat := (cs.takeWhile (· = '/')).length

def ofText (s : String) : Path :=
  { root := match leadingSlashes s.toList with
      | 0 => ""
      | 2 => "//"
      | _ => "/"
    parts := (Text.splitAt '/' s).filter fun part => part != "" && part != "." }

def toText (p : Path) : String :=
  if p.root = "" && p.parts.isEmpty then "." else p.root ++ "/".intercalate p.parts

def parent (p : Path) : Path := { p with parts := p.parts.dropLast }

/-- The user whose home folder the path starts from. A lone `~` is the user of the program, who
goes by the empty name. -/
def user? (p : Path) : Option String :=
  match p.root, p.parts with
  | "", first :: _ => match first.toList with
    | '~' :: name => some (String.ofList name)
    | _ => none
  | _, _ => none

-- The path of a home folder. Nobody lives in a folder that starts from a home itself.
def ofHome? (home : String) : Option Path :=
  match home.toList with
  | '~' :: _ => none
  | cs => if cs.all (· = '/') then some ⟨"/", []⟩ else some (ofText home)

def holdsNul (s : String) : Bool := s.toList.contains '\x00'

def expandHome (homes : String → Option String) (p : Path) : Option Path :=
  match p.user? with
  | none => some p
  | some name =>
    if holdsNul name then none
    else do
      let base ← ofHome? (← homes name)
      return { base with parts := base.parts ++ p.parts.tail }

def hasNul (p : Path) : Bool := p.parts.any holdsNul

end Path

end BackupConsole
