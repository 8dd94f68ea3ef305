import BackupConsole.Run
import BackupConsole.Text.Lines

set_option autoImplicit false

namespace BackupConsole

def credentialFields : List String := ["api_token", "authorization", "token"]

def redactedMark : String := "***"

def redactField (name : String) (value : Datum) : Datum :=
  if credentialFields.contains name && value.truthy then .text redactedMark else value

def redact (fields : List (String × Datum)) : List (String × Datum) :=
  fields.map fun (name, value) => (name, redactField name value)

namespace LogRecord

def ownFields : List String := ["event", "level", "logger", "timestamp", "func_name", "lineno"]

def entries (r : LogRecord) : List (String × Datum) :=
  [("event", .text r.event), ("level", .text r.level.name), ("logger", .text r.logger)] ++ r.fields

def splitMarks : List Char := [' ', '\t', '=', '\r', '\n', '"', '\'']

def valueText : Datum → String
  | .text s => if s.toList.any splitMarks.contains then Text.quote s else s
  | d => d.quoted

def fieldText (name : String) (value : Datum) : String := name ++ "=" ++ valueText value

def secondName : String := "logger_name"

def bracketed (s : String) : String := "[" ++ s ++ "]"

def columns (r : LogRecord) : List String :=
  let second := r.fields.filter fun (name, _) => name == secondName
  let others := (r.fields.filter fun (name, _) => name != secondName).mergeSort
    fun a b => !decide (b.1 < a.1)
  [bracketed (Text.padRight 9 r.level.name), Text.padRight 30 r.event, bracketed r.logger] ++
    second.map (fun (_, value) => bracketed value.display) ++
    others.map fun (name, value) => fieldText name value

def text (stamp : String) (r : LogRecord) : String := " ".intercalate (stamp :: r.columns)

end LogRecord

inductive Line
  | text (s : String)
  | object (entries : List (String × Datum))

namespace Line

inductive Style
  | text
  | object
  deriving DecidableEq, Repr

def Style.ofName (s : String) : Style := if s = "json" then .object else .text

def ofRecord (style : Style) (stamp : String) (r : LogRecord) : List Line :=
  match style with
  | .text => (Text.splitAt '\n' (r.text stamp)).map Line.text
  | .object => [.object r.entries]

def toText : Line → String
  | text s => s
  | object entries => (Datum.dict entries).json

end Line

end BackupConsole
