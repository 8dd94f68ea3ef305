import BackupConsole.Yaml.Cursor
import BackupConsole.Yaml.Token

set_option autoImplicit false

namespace BackupConsole.Yaml

def codesOf (cs : List Char) : List Nat := cs.map Char.toNat

def hexValue? (c : Char) : Option Nat :=
  if c.isDigit then some (c.toNat - '0'.toNat)
  else if 'a' ≤ c ∧ c ≤ 'f' then some (c.toNat - 'a'.toNat + 10)
  else if 'A' ≤ c ∧ c ≤ 'F' then some (c.toNat - 'A'.toNat + 10)
  else none

def hexNumber? (cs : List Char) : Option Nat :=
  cs.foldl (fun n c => match n, hexValue? c with
    | some n, some d => some (16 * n + d)
    | _, _ => none) (some 0)

def namedEscape? (c : Char) : Option Nat :=
  [('0', 0x0), ('a', 0x7), ('b', 0x8), ('t', 0x9), ('\t', 0x9), ('n', 0xa), ('v', 0xb),
    ('f', 0xc), ('r', 0xd), ('e', 0x1b), (' ', 0x20), ('"', 0x22), ('\\', 0x5c), ('/', 0x2f),
    ('N', 0x85), ('_', 0xa0), ('L', 0x2028), ('P', 0x2029)].lookup c

def escapeWidth? (c : Char) : Option Nat := [('x', 2), ('u', 4), ('U', 8)].lookup c

def quotedBreaks : Nat → Cursor → Except Defect (List Char × Cursor)
  | 0, _ => .error .malformed
  | fuel + 1, c =>
    if c.atSeparator then .error .malformed
    else
      let c := c.skipWhile isBlank
      match c.lineBreak with
      | ([], _) => .ok ([], c)
      | (br, c) => do
        let (more, c) ← quotedBreaks fuel c
        return (br ++ more, c)

-- A code point beyond Unicode, or beyond 31 bits, is no part of any text.
def checkedCode (n : Nat) : Except Defect Nat :=
  if n < 0x110000 then .ok n else if n < 0x80000000 then .error .unreadable else .error .overflow

def quotedEscape (fuel : Nat) (c : Cursor) : Except Defect (List Nat × Cursor) :=
  match c.peek with
  | none => .error .malformed
  | some ch =>
    match namedEscape? ch, escapeWidth? ch with
    | some code, _ => .ok ([code], c.step)
    | none, some width =>
      let digits := c.step.rest.take width
      match hexNumber? digits with
      | some n =>
        if digits.length = width then do
          let code ← checkedCode n
          return ([code], c.step.skip width)
        else .error .malformed
      | none => .error .malformed
    | none, none =>
      if isBreak ch then do
        let (more, c) ← quotedBreaks fuel c.lineBreak.2
        return (codesOf more, c)
      else .error .malformed

/-- Blanks inside a quoted scalar. They are kept before other characters; a single break becomes
a space, further breaks are kept. -/
def quotedBlanks (fuel : Nat) (c : Cursor) : Except Defect (List Char × Cursor) := do
  let (blanks, c) := c.takeWhile isBlank
  match c.peek with
  | none => .error .malformed
  | some ch =>
    if isBreak ch then
      let (br, c) := c.lineBreak
      let (more, c) ← quotedBreaks fuel c
      -- A single line feed folds into a space; further breaks stand for themselves.
      let first := if br != ['\n'] then br else if more.isEmpty then [' '] else []
      return (first ++ more, c)
    else return (blanks, c)

def quotedFrom (double : Bool) : Nat → Cursor → Except Defect (List Nat × Cursor)
  | 0, _ => .error .malformed
  | fuel + 1, c =>
    match c.peek with
    | none => .error .malformed
    | some ch =>
      if isBlank ch || isBreak ch then do
        let (cs, c) ← quotedBlanks fuel c
        let (more, c) ← quotedFrom double fuel c
        return (codesOf cs ++ more, c)
      else if double && ch = '\\' then do
        let (codes, c) ← quotedEscape fuel c.step
        let (more, c) ← quotedFrom double fuel c
        return (codes ++ more, c)
      else if !double && ch = '\'' && c.peek 1 = some '\'' then do
        let (more, c) ← quotedFrom double fuel (c.skip 2)
        return ('\''.toNat :: more, c)
      else if ch = (if double then '"' else '\'') then .ok ([], c.step)
      else do
        let (more, c) ← quotedFrom double fuel c.step
        return (ch.toNat :: more, c)

def quotedScalar (double : Bool) (c : Cursor) : Except Defect (List Nat × Cursor) :=
  quotedFrom double (c.rest.length + 1) c.step

-- Where a plain scalar must stop: at a blank or break, at a colon that ends a word, and inside
-- brackets at their indicators.
def plainStops (flow : Bool) (ch : Char) (next : Option Char) : Bool :=
  isBlank ch || isBreak ch
    || (ch = ':' && (endsWord next || (flow && match next with
      | some n => [',', '[', ']', '{', '}'].contains n
      | none => false)))
    || (flow && [',', '?', '[', ']', '{', '}'].contains ch)

def plainWord (flow : Bool) : List Char → List Char
  | [] => []
  | ch :: rest => if plainStops flow ch rest.head? then [] else ch :: plainWord flow rest

def plainBreaks : Nat → Cursor → Option (List Char) × Cursor
  | 0, c => (none, c)
  | fuel + 1, c =>
    if c.atSeparator then (none, c)
    else
      let c := c.skipWhile (· = ' ')
      match c.lineBreak with
      | ([], _) => (some [], c)
      | (br, c) =>
        let (more, c) := plainBreaks fuel c
        (more.map (br ++ ·), c)

-- What stands between two words of a plain scalar, and whether a line ended there.
def plainGap (fuel : Nat) (c : Cursor) : List Char × Bool × Cursor :=
  let (blanks, c) := c.takeWhile (· = ' ')
  match c.lineBreak with
  | ([], _) => (blanks, false, c)
  | (br, c) =>
    match plainBreaks fuel c with
    | (none, c) => ([], true, c)
    | (some more, c) =>
      let first := if br != ['\n'] then br else if more.isEmpty then [' '] else []
      (first ++ more, true, c)

-- The words of a plain scalar from the cursor on, with the gap that precedes them. Beside the
-- text it says whether a line ended after the last word.
def plainFrom (flow : Bool) (indent : Int) :
    Nat → List Char → Bool → Cursor → List Char × Bool × Cursor
  | 0, _, broke, c => ([], broke, c)
  | fuel + 1, gap, broke, c =>
    if c.peek = some '#' then ([], broke, c)
    else
      match plainWord flow c.rest with
      | [] => ([], broke, c)
      | word =>
        -- A gap counts only if another word of the scalar follows it.
        let (next, broke, c) := plainGap fuel (c.skip word.length)
        if next.isEmpty || c.peek = some '#' || (!flow && decide ((c.column : Int) < indent)) then
          (gap ++ word, broke, c)
        else
          let (more, broke, c) := plainFrom flow indent fuel next broke c
          (gap ++ word ++ more, broke, c)

def plainScalar (flow : Bool) (indent : Int) (c : Cursor) : List Char × Bool × Cursor :=
  plainFrom flow (indent + 1) (c.rest.length + 1) [] false c

inductive Chomping
  | clip
  | keep
  | strip
  deriving DecidableEq

def blockHead (c : Cursor) : Except Defect (Chomping × Option Nat × Cursor) := do
  let chomp (c : Cursor) : Chomping × Cursor := match c.peek with
    | some '+' => (.keep, c.step)
    | some '-' => (.strip, c.step)
    | _ => (.clip, c)
  let width (c : Cursor) : Except Defect (Option Nat × Cursor) := match c.peek with
    | some ch =>
      if ch = '0' then .error .malformed
      else if ch.isDigit then .ok (some (ch.toNat - '0'.toNat), c.step)
      else .ok (none, c)
    | none => .ok (none, c)
  let (chomping, c) := chomp c
  let (increment, c) ← width c
  -- The two may stand in either order.
  let (chomping, c) := if chomping = .clip && increment.isSome then chomp c else (chomping, c)
  if c.peek = some ' ' || atLineEnd c.peek then return (chomping, increment, c)
  else .error .malformed

def restOfLine (c : Cursor) : Except Defect Cursor :=
  let c := c.skipWhile (· = ' ')
  let c := if c.peek = some '#' then c.skipWhile (!isBreak ·) else c
  if atLineEnd c.peek then .ok c.lineBreak.2 else .error .malformed

def blockLead : Nat → Nat → Cursor → List Char × Nat × Cursor
  | 0, deepest, c => ([], deepest, c)
  | fuel + 1, deepest, c =>
    match c.lineBreak with
    | ([], _) =>
      if c.peek = some ' ' then blockLead fuel (max deepest c.step.column) c.step
      else ([], deepest, c)
    | (br, c) =>
      let (more, deepest, c) := blockLead fuel deepest c
      (br ++ more, deepest, c)

def skipIndent (indent : Nat) (c : Cursor) : Cursor :=
  c.skip ((c.rest.take (indent - c.column)).takeWhile (· = ' ')).length

def blockBreaks (indent : Nat) : Nat → Cursor → List Char × Cursor
  | 0, c => ([], c)
  | fuel + 1, c =>
    let c := skipIndent indent c
    match c.lineBreak with
    | ([], _) => ([], c)
    | (br, c) =>
      let (more, c) := blockBreaks indent fuel c
      (br ++ more, c)

/-- The lines of a block. `pending` holds the empty lines before the current one. A folded block
joins two lines with a space unless one of them starts with a blank. The answer is the text, the
last line's break and the breaks after it. -/
def blockLines (folded : Bool) (indent : Nat) :
    Nat → List Char → List Char → Cursor → List Char × List Char × List Char × Cursor
  | 0, pending, br, c => ([], br, pending, c)
  | fuel + 1, pending, br, c =>
    if c.column = indent && c.peek.isSome then
      let solid := match c.peek with
        | some ch => !isBlank ch
        | none => false
      let (line, c) := c.takeWhile (!isBreak ·)
      let (br, c) := c.lineBreak
      let (breaks, c) := blockBreaks indent fuel c
      if c.column = indent && c.peek.isSome then
        let nextSolid := match c.peek with
          | some ch => !isBlank ch
          | none => false
        let joint :=
          if folded && br == ['\n'] && solid && nextSolid then
            if breaks.isEmpty then [' '] else []
          else br
        let (more, br, after, c) := blockLines folded indent fuel breaks br c
        (pending ++ line ++ joint ++ more, br, after, c)
      else (pending ++ line, br, breaks, c)
    else ([], br, pending, c)

def blockScalar (folded : Bool) (indent : Int) (c : Cursor) :
    Except Defect (List Char × Cursor) := do
  let (chomping, increment, c) ← blockHead c.step
  let c ← restOfLine c
  let fuel := c.rest.length + 1
  let least := (max 1 (indent + 1)).toNat
  let (breaks, depth, c) := match increment with
    | none =>
      let (breaks, deepest, c) := blockLead fuel 0 c
      (breaks, max least deepest, c)
    | some n =>
      let depth := least + n - 1
      let (breaks, c) := blockBreaks depth fuel c
      (breaks, depth, c)
  let (text, br, after, c) := blockLines folded depth fuel breaks [] c
  let close := match chomping with
    | .strip => []
    | .clip => br
    | .keep => br ++ after
  return (text ++ close, c)

end BackupConsole.Yaml
