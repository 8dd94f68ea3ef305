import BackupConsole.Files.Basic

set_option autoImplicit false

namespace BackupConsole.Files

def put (f : Files) (place : List String) (c : Content) : Files :=
  { f with entries := (place, c) :: f.entries }

def create (f : Files) (folder : List String) (name : String) (c : Content) :
    Files × Except FileProblem (List String) :=
  let place := folder ++ [name]
  match f.contentAt folder with
  | some (.folder { writing := some o, .. }) => (f, .error (.blocked o))
  | _ => (f.put place c, .ok place)

def makeFolder (f : Files) (above : List String) (name : String) : Files × Option FileProblem :=
  match f.follow above [name] with
  | .ok (_, .folder _) => (f, none)
  | .ok (_, .file _ _) => (f, some .taken)
  | .error .notFound =>
    match f.create above name .folder with
    | (f, .ok _) => (f, none)
    | (f, .error problem) => (f, some problem)
  | .error problem => (f, some problem)

def makeFolders (f : Files) (base : List String) : List String → Files × Option FileProblem
  | [] => (f, none)
  | name :: above =>
    match f.follow base above.reverse with
    | .ok (place, _) => f.makeFolder place name
    | .error .notFound =>
      match makeFolders f base above with
      | (f, some problem) => (f, some problem)
      | (f, none) =>
        match f.follow base above.reverse with
        | .ok (place, _) => f.makeFolder place name
        | .error problem => (f, some problem)
    | .error problem => (f, some problem)

def openIn (f : Files) (folder : List String) (name : String) :
    Files × Except FileProblem (List String) :=
  match f.follow folder [name] with
  | .ok (place, .file _ access) => (f, (access.writing.map .blocked).elim (.ok place) .error)
  | .ok (_, .folder _) => (f, .error .isFolder)
  | .error .notFound => f.create folder name (.file [])
  | .error problem => (f, .error problem)

def openForAppend (f : Files) (p : Path) : Files × Except FileProblem (List String) :=
  if p.parent.hasNul then (f, .error .badName)
  else
    match f.makeFolders (f.start p) p.parent.parts.reverse with
    | (f, some problem) => (f, .error problem)
    | (f, none) =>
      if p.hasNul then (f, .error .badName)
      else match p.parts.getLast?, f.follow (f.start p) p.parent.parts with
        | none, _ => (f, .error .isFolder)
        | some name, .ok (folder, _) => f.openIn folder name
        | some _, .error problem => (f, .error problem)

def append (f : Files) (place : List String) (bytes : List UInt8) : Files :=
  match f.contentAt place with
  | some (.file before access) => f.put place (.file (before ++ bytes) access)
  | _ => f

end BackupConsole.Files
