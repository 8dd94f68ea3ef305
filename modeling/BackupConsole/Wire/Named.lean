import BackupConsole.Cause
import BackupConsole.Datum
import BackupConsole.Wire.Message

set_option autoImplicit false

namespace BackupConsole.Wire

def integerIn (low high : Int) : Datum → Except Failure Int
  | .bool b => .ok (if b then 1 else 0)
  | .int n => if low ≤ n ∧ n ≤ high then .ok n else .error (.badValue none)
  | _ => .error .wrongType

def Leaf.ofDatum : (l : Leaf) → Datum → Except Failure l.Value
  | .text, .text s => .ok s
  | .text, _ => .error .wrongType
  | .int64, d => (integerIn (-0x8000000000000000) 0x7fffffffffffffff d).map Int64.ofInt
  | .bool, .bool b => .ok b
  | .bool, .int n =>
    if -0x8000000000000000 ≤ n ∧ n < 0x8000000000000000 then .ok (n != 0) else .error .overflow
  | .bool, _ => .error .wrongType
  | .enum e, .text s => match e.number? s with
    | some n => .ok (Int32.ofInt n)
    | none => .error (.badValue none)
  | .enum _, d => (integerIn (-0x80000000) 0x7fffffff d).map Int32.ofInt

def Leaf.toDatum : (l : Leaf) → l.Value → Datum
  | .text, v => .text v
  | .int64, v => .int v.toInt
  | .bool, v => .bool v
  | .enum _, v => .int v.toInt

namespace Row

def setNamed : (fs : List LeafField) → Row fs → String → Datum → Except Failure (Row fs)
  | [], _, _, _ => .error (.badValue none)
  | f :: fs, (v, rest), name, d =>
    if f.name = name then
      match d with
      | .null => .ok (v, rest)
      | d => (f.leaf.ofDatum d).map fun w => (w, rest)
    else (setNamed fs rest name d).map fun rest => (v, rest)

def ofDatum (fs : List LeafField) : Datum → Except Failure (Row fs)
  | .dict entries => entries.foldlM (fun row (name, d) => setNamed fs row name d) (empty fs)
  | _ => .error .wrongType

def toEntries : (fs : List LeafField) → Row fs → List (String × Datum)
  | [], _ => []
  | f :: fs, (v, rest) => (f.name, f.leaf.toDatum v) :: toEntries fs rest

end Row

def Kind.ofDatum : (k : Kind) → Datum → Except Failure k.Value
  | .leaf l, d => l.ofDatum d
  | .message _ fs, d => (Row.ofDatum fs d).map some
  | .messages _ fs, .list items => items.mapM (Row.ofDatum fs)
  | .messages _ _, .dict [] => .ok []
  | .messages _ _, .text "" => .ok []
  | .messages _ _, _ => .error .wrongType

def Kind.toDatum : (k : Kind) → k.Value → Datum
  | .leaf l, v => l.toDatum v
  | .message _ _, none => .null
  | .message _ fs, some row => .dict (Row.toEntries fs row)
  | .messages _ fs, rows => .list (rows.map fun row => .dict (Row.toEntries fs row))

namespace Message

def setNamed : (fs : List Field) → Message fs → String → Datum → Except Failure (Message fs)
  | [], _, _, _ => .error (.badValue none)
  | f :: fs, (v, rest), name, d =>
    if f.name = name then
      match d with
      | .null => .ok (v, rest)
      | d => (f.kind.ofDatum d).map fun w => (w, rest)
    else (setNamed fs rest name d).map fun rest => (v, rest)

def ofEntries (fs : List Field) (entries : List (String × Datum)) : Except Failure (Message fs) :=
  entries.foldlM (fun m (name, d) => setNamed fs m name d) (empty fs)

def toEntries : (fs : List Field) → Message fs → List (String × Datum)
  | [], _ => []
  | f :: fs, (v, rest) => (f.name, f.kind.toDatum v) :: toEntries fs rest

end Message

end BackupConsole.Wire
