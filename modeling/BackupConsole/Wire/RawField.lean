import BackupConsole.Wire.Varint

set_option autoImplicit false

namespace BackupConsole.Wire

inductive RawField
  | varint (number value : Nat)
  | fixed64 (number : Nat) (payload : List UInt8)
  | bytes (number : Nat) (payload : List UInt8)
  | group (number : Nat) (fields : List RawField)
  | fixed32 (number : Nat) (payload : List UInt8)

namespace RawField

def number : RawField → Nat
  | .varint n _ => n
  | .fixed64 n _ => n
  | .bytes n _ => n
  | .group n _ => n
  | .fixed32 n _ => n

def tag (number form : Nat) : List UInt8 := Wire.varint (8 * number + form)

mutual

def toBytes : RawField → List UInt8
  | .varint n v => tag n 0 ++ Wire.varint v
  | .fixed64 n payload => tag n 1 ++ payload
  | .bytes n payload => tag n 2 ++ Wire.varint payload.length ++ payload
  | .group n fields => tag n 3 ++ listToBytes fields ++ tag n 4
  | .fixed32 n payload => tag n 5 ++ payload

def listToBytes : List RawField → List UInt8
  | [] => []
  | f :: fields => toBytes f ++ listToBytes fields

end

def takeBytes (n : Nat) (bs : List UInt8) : Option (List UInt8 × List UInt8) :=
  if n ≤ bs.length then some (bs.take n, bs.drop n) else none

-- Bytes after their length, which is a varint of at most five bytes below 2 ^ 31.
def takeSized (bs : List UInt8) : Option (List UInt8 × List UInt8) := do
  let (n, rest) ← readVarint 5 bs
  if n < 0x80000000 then takeBytes n rest else none

-- A field number and a form; the number is positive and the tag fits 32 bits.
def takeTag (bs : List UInt8) : Option (Nat × Nat × List UInt8) := do
  let (t, rest) ← readVarint 5 bs
  if t < 0x100000000 && 0 < t / 8 then some (t / 8, t % 8, rest) else none

/-- Reads fields to the end of the bytes, or to the tag that closes the group `closing`. Groups
may nest `depth` deep. -/
def readFields : Nat → Nat → Option Nat → List UInt8 → Option (List RawField × List UInt8)
  | 0, _, _, _ => none
  | fuel + 1, depth, closing, bs =>
    if bs.isEmpty then if closing.isNone then some ([], []) else none
    else do
      let (number, form, rest) ← takeTag bs
      if form = 4 then
        -- A group ends with the number it began with.
        if closing = some number then some ([], rest) else none
      else
        let (field, rest) ←
          if form = 0 then
            (readVarint 10 rest).map fun (v, rest) =>
              (RawField.varint number (v % 0x10000000000000000), rest)
          else if form = 1 then
            (takeBytes 8 rest).map fun (p, rest) => (RawField.fixed64 number p, rest)
          else if form = 2 then
            (takeSized rest).map fun (p, rest) => (RawField.bytes number p, rest)
          else if form = 5 then
            (takeBytes 4 rest).map fun (p, rest) => (RawField.fixed32 number p, rest)
          else if form = 3 then
            match depth with
            | 0 => none
            | depth + 1 =>
              (readFields fuel depth (some number) rest).map fun (fs, rest) =>
                (RawField.group number fs, rest)
          else none
        let (fields, rest) ← readFields fuel depth closing rest
        return (field :: fields, rest)

end RawField

def maxDepth : Nat := 100

def rawFields (depth : Nat) (bs : List UInt8) : Option (List RawField) :=
  (RawField.readFields (bs.length + 1) depth none bs).map (·.1)

end BackupConsole.Wire
