import BackupConsole.Given
import BackupConsole.Wire.RawField

/-!
Typed messages. A schema lists fields with their numbers; a message has one value per field. A
field holds a single value, another message that may be absent, or a list of messages; messages
inside messages hold single values only, which is all that the contract uses.

Writing omits values equal to their default. Reading starts from the empty message and puts one raw
field after another into it: later values replace earlier ones, later messages merge into earlier
ones, and a field that the schema does not know, or that has another form, is skipped.
-/

set_option autoImplicit false

namespace BackupConsole.Wire

structure Enumeration where
  name : String
  labels : List (String × Int)
  deriving DecidableEq, Repr

namespace Enumeration

def label? (e : Enumeration) (n : Int) : Option String :=
  (e.labels.find? fun (_, m) => m == n).map (·.1)

def number? (e : Enumeration) (label : String) : Option Int := e.labels.lookup label

end Enumeration

inductive Leaf
  | text
  | int64
  | bool
  | enum (e : Enumeration)
  deriving DecidableEq, Repr

namespace Leaf

@[reducible]
def Value : Leaf → Type
  | text => String
  | int64 => Int64
  | bool => Bool
  | enum _ => Int32

def default : (l : Leaf) → l.Value
  | text => ""
  | int64 => 0
  | bool => false
  | enum _ => 0

/-- Negative numbers are written as 64-bit two's complement, whatever the width of the field. -/
def code (n : Int) : Nat := (n % 0x10000000000000000).toNat

def give : (l : Leaf) → Nat → l.Value → List RawField
  | text, number, v => if v = "" then [] else [.bytes number v.toUTF8.toList]
  | int64, number, v => if v = 0 then [] else [.varint number (code v.toInt)]
  | bool, number, v => if v then [.varint number 1] else []
  | enum _, number, v => if v = 0 then [] else [.varint number (code v.toInt)]

/-- What a raw field means for a value: nothing, a new value, or an error in the message. -/
inductive Effect (α : Type)
  | skip
  | set (a : α)
  | broken

def take : (l : Leaf) → RawField → Effect l.Value
  | text, .bytes _ payload => match Given.utf8? payload with
    | some s => .set s
    | none => .broken
  | int64, .varint _ v => .set (Int64.ofNat v)
  | bool, .varint _ v => .set (v != 0)
  | enum _, .varint _ v => .set (Int32.ofNat v)
  | _, _ => .skip

end Leaf

structure LeafField where
  name : String
  number : Nat
  leaf : Leaf
  deriving DecidableEq, Repr

@[reducible]
def Row : List LeafField → Type
  | [] => Unit
  | f :: fs => f.leaf.Value × Row fs

namespace Row

def empty : (fs : List LeafField) → Row fs
  | [] => ()
  | f :: fs => (f.leaf.default, empty fs)

def give : (fs : List LeafField) → Row fs → List RawField
  | [], _ => []
  | f :: fs, (v, rest) => f.leaf.give f.number v ++ give fs rest

def put : (fs : List LeafField) → Row fs → RawField → Option (Row fs)
  | [], row, _ => some row
  | f :: fs, (v, rest), raw =>
    if raw.number = f.number then
      match f.leaf.take raw with
      | .skip => some (v, rest)
      | .set w => some (w, rest)
      | .broken => none
    else (put fs rest raw).map fun rest => (v, rest)

def putAll (fs : List LeafField) (row : Row fs) (raws : List RawField) : Option (Row fs) :=
  raws.foldlM (put fs) row

def merge (fs : List LeafField) (row : Row fs) (depth : Nat) (bs : List UInt8) :
    Option (Row fs) := do
  putAll fs row (← rawFields depth bs)

end Row

inductive Kind
  | leaf (l : Leaf)
  | message (name : String) (fields : List LeafField)
  | messages (name : String) (fields : List LeafField)
  deriving DecidableEq, Repr

namespace Kind

@[reducible]
def Value : Kind → Type
  | leaf l => l.Value
  | message _ fs => Option (Row fs)
  | messages _ fs => List (Row fs)

def default : (k : Kind) → k.Value
  | leaf l => l.default
  | message _ _ => none
  | messages _ _ => []

def give : (k : Kind) → Nat → k.Value → List RawField
  | leaf l, number, v => l.give number v
  | message _ _, _, none => []
  | message _ fs, number, some row => [.bytes number (RawField.listToBytes (Row.give fs row))]
  | messages _ fs, number, rows =>
    rows.map fun row => .bytes number (RawField.listToBytes (Row.give fs row))

def take : (k : Kind) → k.Value → RawField → Leaf.Effect k.Value
  | leaf l, _, raw => l.take raw
  | message _ fs, old, .bytes _ payload =>
    match Row.merge fs (old.getD (Row.empty fs)) (maxDepth - 1) payload with
    | some row => .set (some row)
    | none => .broken
  | messages _ fs, old, .bytes _ payload =>
    match Row.merge fs (Row.empty fs) (maxDepth - 1) payload with
    | some row => .set (old ++ [row])
    | none => .broken
  | _, _, _ => .skip

end Kind

structure Field where
  name : String
  number : Nat
  kind : Kind
  deriving DecidableEq, Repr

@[reducible]
def Message : List Field → Type
  | [] => Unit
  | f :: fs => f.kind.Value × Message fs

namespace Message

def empty : (fs : List Field) → Message fs
  | [] => ()
  | f :: fs => (f.kind.default, empty fs)

def give : (fs : List Field) → Message fs → List RawField
  | [], _ => []
  | f :: fs, (v, rest) => f.kind.give f.number v ++ give fs rest

def put : (fs : List Field) → Message fs → RawField → Option (Message fs)
  | [], m, _ => some m
  | f :: fs, (v, rest), raw =>
    if raw.number = f.number then
      match f.kind.take v raw with
      | .skip => some (v, rest)
      | .set w => some (w, rest)
      | .broken => none
    else (put fs rest raw).map fun rest => (v, rest)

def encode (fs : List Field) (m : Message fs) : List UInt8 :=
  RawField.listToBytes (give fs m)

/-- The message that bytes spell; `none` if they are no message of any schema, or if text is not
UTF-8. -/
def decode (fs : List Field) (bs : List UInt8) : Option (Message fs) := do
  (← rawFields maxDepth bs).foldlM (put fs) (empty fs)

end Message

end BackupConsole.Wire
