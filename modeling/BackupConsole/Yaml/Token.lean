set_option autoImplicit false

namespace BackupConsole.Yaml

/-- Why a text yields no values: it is not well formed, or a well formed scalar cannot be read as
the type its tag asks for. -/
inductive Defect
  | malformed
  | unreadable
  | overflow
  | unknownWord
  | emptyNumber
  | notATime
  | wrongType
  | tooDeep
  deriving DecidableEq, Repr

/-- How deep documents may go before the reader's stack is full: collections in one another,
mappings merged through others, and texts shown through mappings. `early` is the defect in the
characters that are scanned before a later piece of a file turns out to be no text. -/
structure Reader where
  nesting : Nat := 450
  merging : Nat := 900
  showing : Nat := 900
  early : List UInt8 → Option Defect := fun _ => none

inductive Directive
  | version (major : Nat)
  | tag (handle lead : String)
  | reserved
  deriving DecidableEq, Repr

inductive Token
  | streamEnd
  | directive (d : Directive)
  | documentStart
  | documentEnd
  | blockSequenceStart
  | blockMappingStart
  | blockEnd
  | flowSequenceStart
  | flowSequenceEnd
  | flowMappingStart
  | flowMappingEnd
  | flowEntry
  | blockEntry
  | key
  | value
  | reference (name : String)
  | anchor (name : String)
  | tag (handle : Option String) (suffix : String)
  | scalar (codes : List Nat) (plain : Bool)
  deriving DecidableEq, Repr

end BackupConsole.Yaml
