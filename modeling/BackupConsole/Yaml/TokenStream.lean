import BackupConsole.Number.Decimal
import BackupConsole.Yaml.Scalar

/-!
The token stream of a YAML text. Whether a scalar or collection is a mapping key is known only
when its colon is met, so each token is kept in an entry that can still be marked as a key; marking
it never moves another token.
-/

set_option autoImplicit false

namespace BackupConsole.Yaml

structure Entry where
  token : Token
  isKey : Bool := false
  opensMapping : Bool := false

def Entry.tokens (e : Entry) : List Token :=
  (if e.opensMapping then [.blockMappingStart] else []) ++
    (if e.isKey then [.key] else []) ++ [e.token]

/-- A token that may turn out to begin a key. It is required to when it stands at the indentation
of the block it is in. -/
structure Candidate where
  position : Nat
  required : Bool
  index : Nat
  line : Nat
  column : Nat

/-- `flow` counts the brackets that are open; `candidates` are kept by that count. `indent` is -1
outside every block. -/
structure ScanState where
  cursor : Cursor
  entries : Array Entry := #[]
  flow : Nat := 0
  indent : Int := -1
  outer : List Int := []
  keysAllowed : Bool := true
  candidates : List (Nat × Candidate) := []

namespace ScanState

abbrev Step := Except Defect ScanState

def emit (s : ScanState) (t : Token) : ScanState :=
  { s with entries := s.entries.push { token := t } }

def inFlow (s : ScanState) : Bool := s.flow != 0

-- A key ends on the line it begins on, within 1024 characters.
def dropStale (s : ScanState) : Step :=
  let stale (k : Candidate) : Bool :=
    k.line != s.cursor.line || decide (1024 < s.cursor.index - k.index)
  if s.candidates.any fun (_, k) => stale k && k.required then .error .malformed
  else .ok { s with candidates := s.candidates.filter fun (_, k) => !stale k }

def forgetCandidate (s : ScanState) : Step :=
  match s.candidates.lookup s.flow with
  | some k =>
    if k.required then .error .malformed
    else .ok { s with candidates := s.candidates.filter (·.1 != s.flow) }
  | none => .ok s

def noteCandidate (s : ScanState) : Step :=
  if s.keysAllowed then do
    let s ← s.forgetCandidate
    let k : Candidate :=
      { position := s.entries.size
        required := !s.inFlow && decide (s.indent = s.cursor.column)
        index := s.cursor.index
        line := s.cursor.line
        column := s.cursor.column }
    return { s with candidates := (s.flow, k) :: s.candidates }
  else .ok s

-- Closes the blocks that are indented deeper than `column`.
def unwind (s : ScanState) (column : Int) : ScanState :=
  if s.inFlow then s
  else go s.outer s
where
  go : List Int → ScanState → ScanState
    | [], s => s
    | i :: outer, s =>
      if column < s.indent then
        go outer { s.emit .blockEnd with indent := i, outer := outer }
      else s

def indentTo (s : ScanState) (column : Nat) : Bool × ScanState :=
  if s.indent < column then
    (true, { s with indent := column, outer := s.indent :: s.outer })
  else (false, s)

def moveTo (s : ScanState) (c : Cursor) : ScanState := { s with cursor := c }

def toNextToken (s : ScanState) : ScanState :=
  let c := if s.cursor.index = 0 && s.cursor.peek = some '\uFEFF' then s.cursor.step
    else s.cursor
  go (c.rest.length + 1) { s with cursor := c }
where
  go : Nat → ScanState → ScanState
    | 0, s => s
    | fuel + 1, s =>
      let c := s.cursor.skipWhile (· = ' ')
      let c := if c.peek = some '#' then c.skipWhile (!isBreak ·) else c
      match c.lineBreak with
      | ([], _) => { s with cursor := c }
      | (_, c) => go fuel { s with cursor := c, keysAllowed := s.keysAllowed || !s.inFlow }

def isWordChar (c : Char) : Bool := c.isAlphanum || c = '-' || c = '_'

def isUriChar (c : Char) : Bool :=
  c.isAlphanum || "-;/?:@&=+$,_.!~*'()[]%".toList.contains c

def uriEscapes : Nat → List Char → Except Defect (List UInt8)
  | 0, _ => .ok []
  | fuel + 1, '%' :: rest =>
    match rest with
    | a :: b :: rest =>
      match hexNumber? [a, b] with
      | some n => do
        let more ← uriEscapes fuel rest
        return UInt8.ofNat n :: more
      | none => .error .malformed
    | _ => .error .malformed
  | _ + 1, _ => .ok []

def uriText : Nat → List Char → Except Defect (List Char × Nat)
  | 0, _ => .ok ([], 0)
  | fuel + 1, cs =>
    match cs with
    | [] => .ok ([], 0)
    | c :: rest =>
      if c = '%' then do
        let bytes ← uriEscapes cs.length cs
        match String.fromUTF8? ⟨bytes.toArray⟩ with
        | some text =>
          let (more, n) ← uriText fuel (cs.drop (3 * bytes.length))
          return (text.toList ++ more, n + 3 * bytes.length)
        | none => .error .malformed
      else if isUriChar c then do
        let (more, n) ← uriText fuel rest
        return (c :: more, n + 1)
      else .ok ([], 0)

def takeUri (c : Cursor) : Except Defect (String × Cursor) := do
  let (cs, n) ← uriText (c.rest.length + 1) c.rest
  if n = 0 then .error .malformed else return (String.ofList cs, c.skip n)

def takeHandle (c : Cursor) : Except Defect (String × Cursor) :=
  if c.peek != some '!' then .error .malformed
  else if c.peek 1 = some ' ' then .ok ("!", c.step)
  else
    let (word, after) := c.step.takeWhile isWordChar
    if after.peek = some '!' then
      .ok (String.ofList ('!' :: word ++ ['!']), after.step)
    else .error .malformed

def takeNumber (c : Cursor) : Except Defect (Nat × Cursor) :=
  let (digits, c) := c.takeWhile Char.isDigit
  if digits.isEmpty then .error .malformed
  else if Number.longestInteger < digits.length then .error .unreadable
  else .ok (digits.foldl (fun n d => 10 * n + (d.toNat - '0'.toNat)) 0, c)

def endsField (next : Option Char) : Bool := next = some ' ' || atLineEnd next

def takeDirective (c : Cursor) : Except Defect (Directive × Cursor) := do
  let (name, c) := c.step.takeWhile isWordChar
  if name.isEmpty || !endsField c.peek then .error .malformed
  else if String.ofList name = "YAML" then
    let (major, c) ← takeNumber (c.skipWhile (· = ' '))
    if c.peek != some '.' then .error .malformed
    else
      let (_, c) ← takeNumber c.step
      if !endsField c.peek then .error .malformed
      else return (.version major, ← restOfLine c)
  else if String.ofList name = "TAG" then
    let (handle, c) ← takeHandle (c.skipWhile (· = ' '))
    if c.peek != some ' ' then .error .malformed
    else
      let (lead, c) ← takeUri (c.skipWhile (· = ' '))
      if !endsField c.peek then .error .malformed
      else return (.tag handle lead, ← restOfLine c)
  else return (.reserved, ← restOfLine (c.skipWhile (!isBreak ·)))

def takeName (c : Cursor) : Except Defect (String × Cursor) :=
  let (name, c) := c.step.takeWhile isWordChar
  let closed := endsWord c.peek || match c.peek with
    | some ch => "?:,]\x7d%@\x60".toList.contains ch
    | none => true
  if name.isEmpty || !closed then .error .malformed else .ok (String.ofList name, c)

def takeTag (c : Cursor) : Except Defect (Token × Cursor) := do
  let (token, c) ←
    if c.peek 1 = some '<' then do
      let (uri, c) ← takeUri (c.skip 2)
      if c.peek != some '>' then .error .malformed
      else pure (Token.tag none uri, c.step)
    else if endsWord (c.peek 1) then pure (Token.tag none "!", c.step)
    else do
      -- A second exclamation mark in the word ends a handle.
      let word := c.step.rest.takeWhile fun ch => ch != ' ' && !isBreak ch
      let (handle, c) ← if word.contains '!' then takeHandle c else pure ("!", c.step)
      let (suffix, c) ← takeUri c
      pure (Token.tag (some handle) suffix, c)
  if endsField c.peek then return (token, c) else .error .malformed

-- A document marker, a directive or the end of the text closes every block.
def closeAll (s : ScanState) : Step := do
  let s ← (s.unwind (-1)).forgetCandidate
  return { s with keysAllowed := false }

def scanEnd (s : ScanState) : Step := do
  let s ← s.closeAll
  return s.emit .streamEnd

def scanMarker (s : ScanState) (t : Token) : Step := do
  let s ← s.closeAll
  return (s.moveTo (s.cursor.skip 3)).emit t

def openFlow (s : ScanState) (t : Token) : Step := do
  let s ← s.noteCandidate
  return ({ s with flow := s.flow + 1, keysAllowed := true }.moveTo s.cursor.step).emit t

def closeFlow (s : ScanState) (t : Token) : Step := do
  let s ← s.forgetCandidate
  return ({ s with flow := s.flow - 1, keysAllowed := false }.moveTo s.cursor.step).emit t

def openBlock (s : ScanState) (t : Token) : Step :=
  if s.inFlow then .ok s
  else if !s.keysAllowed then .error .malformed
  else match s.indentTo s.cursor.column with
    | (true, s) => .ok (s.emit t)
    | (false, s) => .ok s

def scanBlockEntry (s : ScanState) : Step := do
  let s ← s.openBlock .blockSequenceStart
  let s ← { s with keysAllowed := true }.forgetCandidate
  return (s.moveTo s.cursor.step).emit .blockEntry

def scanKey (s : ScanState) : Step := do
  let s ← s.openBlock .blockMappingStart
  let s ← { s with keysAllowed := !s.inFlow }.forgetCandidate
  return (s.moveTo s.cursor.step).emit .key

def scanValue (s : ScanState) : Step := do
  -- A candidate becomes the key; without one the key was announced or is empty.
  match s.candidates.lookup s.flow with
  | some k =>
    let s := { s with candidates := s.candidates.filter (·.1 != s.flow) }
    let (opens, s) := if s.inFlow then (false, s) else s.indentTo k.column
    let s := { s with
      entries := s.entries.modify k.position fun e =>
        { e with isKey := true, opensMapping := opens }
      keysAllowed := false }
    return (s.moveTo s.cursor.step).emit .value
  | none =>
    let s ← s.openBlock .blockMappingStart
    let s ← { s with keysAllowed := !s.inFlow }.forgetCandidate
    return (s.moveTo s.cursor.step).emit .value

def scanContent (s : ScanState) (take : Cursor → Except Defect (Token × Cursor)) : Step := do
  let s ← s.noteCandidate
  let (t, c) ← take s.cursor
  return ({ s with keysAllowed := false }.moveTo c).emit t

def scanBlockScalar (s : ScanState) (folded : Bool) : Step := do
  let s ← { s with keysAllowed := true }.forgetCandidate
  let (cs, c) ← blockScalar folded s.indent s.cursor
  return (s.moveTo c).emit (.scalar (codesOf cs) false)

def scanPlain (s : ScanState) : Step := do
  let s ← s.noteCandidate
  let (cs, broke, c) := plainScalar s.inFlow s.indent s.cursor
  return ({ s with keysAllowed := broke }.moveTo c).emit (.scalar (codesOf cs) true)

def beginsPlain (s : ScanState) (ch : Char) : Bool :=
  let next := s.cursor.peek 1
  !(isBlank ch || isBreak ch || "-?:,[]\x7b\x7d#&*!|>'\"%@\x60".toList.contains ch)
    || (!endsWord next && (ch = '-' || (!s.inFlow && (ch = '?' || ch = ':'))))

def scanToken (s : ScanState) (ch : Char) : Step :=
  let next := s.cursor.peek 1
  let lineStart := s.cursor.column = 0
  let named (make : String → Token) (c : Cursor) := do
    let (name, c) ← takeName c
    return (make name, c)
  let quoted (double : Bool) (c : Cursor) := do
    let (codes, c) ← quotedScalar double c
    return (Token.scalar codes false, c)
  if ch = '%' && lineStart then do
    let s ← s.closeAll
    let (d, c) ← takeDirective s.cursor
    return (s.moveTo c).emit (.directive d)
  else if ch = '-' && lineStart && s.cursor.atSeparator then s.scanMarker .documentStart
  else if ch = '.' && lineStart && s.cursor.atSeparator then s.scanMarker .documentEnd
  else if ch = '[' then s.openFlow .flowSequenceStart
  else if ch = '{' then s.openFlow .flowMappingStart
  else if ch = ']' then s.closeFlow .flowSequenceEnd
  else if ch = '}' then s.closeFlow .flowMappingEnd
  else if ch = ',' then do
    let s ← { s with keysAllowed := true }.forgetCandidate
    return (s.moveTo s.cursor.step).emit .flowEntry
  -- Within a word these three marks begin a plain scalar instead.
  else if ch = '-' && endsWord next then s.scanBlockEntry
  else if ch = '?' && (s.inFlow || endsWord next) then s.scanKey
  else if ch = ':' && (s.inFlow || endsWord next) then s.scanValue
  else if ch = '*' then s.scanContent (named .reference)
  else if ch = '&' then s.scanContent (named .anchor)
  else if ch = '!' then s.scanContent takeTag
  else if ch = '|' && !s.inFlow then s.scanBlockScalar false
  else if ch = '>' && !s.inFlow then s.scanBlockScalar true
  else if ch = '\'' then s.scanContent (quoted false)
  else if ch = '"' then s.scanContent (quoted true)
  else if s.beginsPlain ch then s.scanPlain
  else .error .malformed

def next (s : ScanState) : Except Defect (ScanState × Bool) := do
  let s := s.unwind s.cursor.column
  match s.cursor.peek with
  | none => return (← s.scanEnd, true)
  | some ch => return (← s.scanToken ch, false)

/-- How many tokens are settled. One that may still begin a key is not, nor is any after it. -/
def settled (s : ScanState) : Nat :=
  let candidates := match s.noteCandidate with
    | .ok s => s.candidates
    | .error _ => s.candidates
  candidates.foldl (fun n (_, k) => min n k.position) s.entries.size

def run : Nat → ScanState → Array Entry × Option Defect
  | 0, s => (s.entries, some .malformed)
  | fuel + 1, s =>
    match s.toNextToken.dropStale with
    | .error e => (s.entries, some e)
    | .ok s =>
      match s.next with
      -- A defect is met before the tokens that it leaves unsettled.
      | .error e => (s.entries.take s.settled, some e)
      | .ok (s, true) => (s.entries, none)
      | .ok (s, false) => run fuel s

end ScanState

def tokens (cs : List Char) : List Token × Option Defect :=
  let (entries, defect) := ScanState.run (cs.length + 2) { cursor := .ofChars cs }
  (entries.toList.flatMap Entry.tokens, defect)

end BackupConsole.Yaml
