set_option autoImplicit false

namespace BackupConsole.Yaml

def isBreak (c : Char) : Bool :=
  c = '\n' || c = '\x85' || c = '\u2028' || c = '\u2029'

def isBlank (c : Char) : Bool := c = ' ' || c = '\t'

def endsWord : Option Char → Bool
  | none => true
  | some c => isBlank c || isBreak c

def atLineEnd : Option Char → Bool
  | none => true
  | some c => isBreak c

structure Cursor where
  rest : List Char
  index : Nat
  line : Nat
  column : Nat

namespace Cursor

def ofChars (cs : List Char) : Cursor := ⟨cs, 0, 0, 0⟩

def peek (c : Cursor) (n : Nat := 0) : Option Char := c.rest[n]?

-- A byte order mark takes no column.
def step (c : Cursor) : Cursor :=
  match c.rest with
  | [] => c
  | ch :: rest =>
    if isBreak ch then ⟨rest, c.index + 1, c.line + 1, 0⟩
    else ⟨rest, c.index + 1, c.line, if ch = '\uFEFF' then c.column else c.column + 1⟩

def skip (c : Cursor) : Nat → Cursor
  | 0 => c
  | n + 1 => c.step.skip n

def takeWhile (c : Cursor) (p : Char → Bool) : List Char × Cursor :=
  let taken := c.rest.takeWhile p
  (taken, c.skip taken.length)

def skipWhile (c : Cursor) (p : Char → Bool) : Cursor := (c.takeWhile p).2

def lineBreak (c : Cursor) : List Char × Cursor :=
  match c.peek with
  | some ch =>
    if ch = '\n' || ch = '\x85' then (['\n'], c.step)
    else if isBreak ch then ([ch], c.step)
    else ([], c)
  | none => ([], c)

def atSeparator (c : Cursor) : Bool :=
  match c.rest with
  | x :: y :: z :: rest =>
    x = y && y = z && (x = '-' || x = '.') && endsWord rest.head?
  | _ => false

end Cursor

end BackupConsole.Yaml
