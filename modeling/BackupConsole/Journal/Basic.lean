import BackupConsole.Files.Writing
import BackupConsole.Journal.Line
import BackupConsole.Journal.Placeholder
import BackupConsole.Mapping
import BackupConsole.Settings.ConfigFile

/-!
The journal: where log records go, and which of them. Setting it up again replaces everything but
the bound fields; where the log file cannot be opened, everything stays as it was.
-/

set_option autoImplicit false

namespace BackupConsole

/-- Console lines have a style, unless they are not shown. The threshold is a rank of levels. -/
structure Journal where
  console : Option Line.Style := none
  file : Option (List String) := none
  threshold : Nat := Level.warning.rank
  bound : List (String × Datum) := []

namespace Journal

structure Options where
  level : String := "WARNING"
  format : String := "console"
  file : String := ""

def Options.ofSettings (s : Settings) : Options :=
  { level := s.logLevel, format := s.logFormat, file := s.logFile }

def thresholds : List (String × Nat) := [
  ("DEBUG", 10), ("INFO", 20), ("WARNING", 30), ("WARN", 30), ("ERROR", 40), ("CRITICAL", 50),
  ("FATAL", 50), ("NOTSET", 0)]

def openFile (files : Files) (name : String) :
    Files × Except Failure (Option (List String)) :=
  if name = "" then (files, .ok none)
  else match ConfigFile.expand files name with
    | .error e => (files, .error e)
    | .ok path => match files.openForAppend path with
      | (files, .ok place) => (files, .ok (some place))
      | (files, .error .badName) => (files, .error (.badValue none))
      | (files, .error problem) => (files, .error (.unusableFile problem path.toText))

/-- Sets a journal up. A level without a name comes too late to keep the old console and file. -/
def setUp (files : Files) (j : Journal) (o : Options) :
    Files × Journal × Except Failure Unit :=
  match openFile files o.file with
  | (files, .error e) => (files, j, .error e)
  | (files, .ok file) =>
    let j := { j with console := some (Line.Style.ofName o.format), file }
    match thresholds.lookup (Setting.upperLevel o.level) with
    | none => (files, j, .error .missingAttribute)
    | some threshold => (files, { j with threshold }, .ok ())

def outlets (j : Journal) : Nat := if j.file.isSome then 2 else 1

def bind (j : Journal) (fields : List (String × Datum)) : Journal :=
  { j with bound := Mapping.ofPairs (· == ·) (j.bound ++ fields) }

def unbind (j : Journal) (names : List String) : Journal :=
  { j with bound := j.bound.filter fun (name, _) => !names.contains name }

def quietLoggers : List String := ["grpc._cython.cygrpc", "asyncio"]

def isQuiet (logger : String) : Bool :=
  quietLoggers.any fun quiet =>
    logger == quiet || (quiet ++ ".").toList.isPrefixOf logger.toList

def accepts (j : Journal) (logger : String) (level : Level) : Bool :=
  (if isQuiet logger then Level.warning.rank else j.threshold) ≤ level.rank

def complete (j : Journal) (r : LogRecord) : LogRecord :=
  let missing := j.bound.filter fun (name, _) => !(r.fields.map (·.1)).contains name
  let free := (r.fields ++ missing).filter fun (name, _) => !LogRecord.ownFields.contains name
  { r with fields := redact free }

def lines (j : Journal) (stamp : String) (r : LogRecord) : List Line :=
  match j.console with
  | some style =>
    if j.accepts r.logger r.level then Line.ofRecord style stamp (j.complete r) else []
  | none => []

def fileText (j : Journal) (r : LogRecord) : String :=
  if j.accepts r.logger r.level then (Datum.dict (j.complete r).entries).json ++ "\n" else ""

def write (files : Files) (j : Journal) (r : LogRecord) : Files :=
  match j.file with
  | some place => files.append place (j.fileText r).toUTF8.toList
  | none => files

-- The record of a call with values for the placeholders of its event. The event may not be given
-- again as a field.
def recordOf (level : Level) (logger event : String) (args : List Datum)
    (fields : List (String × Datum)) : Except Failure LogRecord :=
  if fields.any fun (name, _) => name == "event" then .error .wrongType
  else do
    let event ← Placeholder.fill event args
    return { level, logger := if logger = "" then "root" else logger, event, fields }

end Journal

end BackupConsole
