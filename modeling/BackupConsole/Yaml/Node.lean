import BackupConsole.Yaml.Tag
import BackupConsole.Yaml.TokenStream

set_option autoImplicit false

namespace BackupConsole.Yaml

inductive Node
  | scalar (tag : Tag) (codes : List Nat)
  | sequence (tag : Tag) (items : List Nat)
  | mapping (tag : Tag) (entries : List (Nat × Nat))

def Node.tag : Node → Tag
  | scalar t _ => t
  | sequence t _ => t
  | mapping t _ => t

def charsOf (codes : List Nat) : List Char :=
  codes.map fun n => if n.isValidChar then Char.ofNat n else '\uFFFD'

structure Graph where
  nodes : Array Node := #[]
  anchors : List (String × Nat) := []

structure ParseState where
  tokens : List Token
  defect : Option Defect
  handles : List (String × String)
  graph : Graph := {}
  -- Collections that may still be opened inside the one that is read.
  room : Nat

abbrev Parse (α : Type) := StateT ParseState (Except Defect) α

namespace Parse

def peek : Parse Token := do
  let s ← get
  match s.tokens with
  | t :: _ => return t
  | [] => throw (s.defect.getD .malformed)

def advance : Parse Unit := modify fun s => { s with tokens := s.tokens.tail }

def expect (t : Token) : Parse Unit := do
  if (← peek) = t then advance else throw .malformed

def addNode (n : Node) : Parse Nat := do
  let s ← get
  set { s with graph := { s.graph with nodes := s.graph.nodes.push n } }
  return s.graph.nodes.size

def putNode (i : Nat) (n : Node) : Parse Unit := modify fun s =>
  { s with graph := { s.graph with nodes := s.graph.nodes.setIfInBounds i n } }

def addAnchor (name : Option String) (i : Nat) : Parse Unit := modify fun s =>
  match name with
  | some name => { s with graph := { s.graph with anchors := (name, i) :: s.graph.anchors } }
  | none => s

def emptyNode : Parse Nat := addNode (.scalar .null [])

def nested {α : Type} (inside : Parse α) : Parse α := do
  let s ← get
  match s.room with
  | 0 => throw .tooDeep
  | room + 1 =>
    set { s with room }
    let a ← inside
    modify fun t => { t with room := s.room }
    return a

def properties : Parse (Option String × Option (Option String × String)) := do
  match ← peek with
  | .anchor name =>
    advance
    match ← peek with
    | .tag handle suffix => advance; return (some name, some (handle, suffix))
    | _ => return (some name, none)
  | .tag handle suffix =>
    advance
    match ← peek with
    | .anchor name => advance; return (some name, some (handle, suffix))
    | _ => return (none, some (handle, suffix))
  | _ => return (none, none)

-- The URI a tag stands for; `!` alone asks for the type that the spelling suggests.
def tagUri (tag : Option (Option String × String)) : Parse (Option String) := do
  match tag with
  | none => return none
  | some (none, suffix) => return some suffix
  | some (some handle, suffix) =>
    match (← get).handles.lookup handle with
    | some lead => return some (lead ++ suffix)
    | none => throw .malformed

def collectionTag (uri : Option String) (default : Tag) : Tag :=
  match uri with
  | none => default
  | some uri => if uri = "!" then default else Tag.ofUri uri

def scalarTag (uri : Option String) (plain : Bool) (codes : List Nat) : Tag :=
  match uri with
  | none => if plain then Tag.ofPlain (charsOf codes) else .str
  | some uri => if uri = "!" then Tag.ofPlain (charsOf codes) else Tag.ofUri uri

def isOneOf (ts : List Token) : Parse Bool := do
  return ts.contains (← peek)

mutual

-- A node. In a block a collection may open by indentation; `indentless` also allows a sequence
-- at the indentation of the mapping it is a value of.
def node : Nat → Bool → Bool → Parse Nat
  | 0, _, _ => throw .malformed
  | fuel + 1, block, indentless => do
    match ← peek with
    | .reference name =>
      advance
      match (← get).graph.anchors.lookup name with
      | some i => return i
      | none => throw .malformed
    | _ =>
      let (anchor, tag) ← properties
      let uri ← tagUri tag
      let known := (← get).graph.anchors
      if anchor.any fun name => (known.lookup name).isSome then throw .malformed
      let begin (n : Node) : Parse Nat := do
        let i ← addNode n
        addAnchor anchor i
        return i
      let sequenceOf (items : Parse (List Nat)) : Parse Nat := do
        let tag := collectionTag uri .seq
        let i ← begin (.sequence tag [])
        putNode i (.sequence tag (← nested items))
        return i
      let mappingOf (entries : Parse (List (Nat × Nat))) : Parse Nat := do
        let tag := collectionTag uri .map
        let i ← begin (.mapping tag [])
        putNode i (.mapping tag (← nested entries))
        return i
      match ← peek with
      | .scalar codes plain =>
        advance
        begin (.scalar (scalarTag uri plain codes) codes)
      | .flowSequenceStart => advance; sequenceOf (flowItems fuel true)
      | .flowMappingStart => advance; mappingOf (flowEntries fuel true)
      | .blockEntry =>
        if indentless then sequenceOf (indentlessItems fuel)
        else if anchor.isSome || tag.isSome then begin (.scalar (scalarTag uri true []) [])
        else throw .malformed
      | .blockSequenceStart =>
        if block then do advance; sequenceOf (blockItems fuel)
        else if anchor.isSome || tag.isSome then begin (.scalar (scalarTag uri true []) [])
        else throw .malformed
      | .blockMappingStart =>
        if block then do advance; mappingOf (blockEntries fuel)
        else if anchor.isSome || tag.isSome then begin (.scalar (scalarTag uri true []) [])
        else throw .malformed
      | _ =>
        if anchor.isSome || tag.isSome then begin (.scalar (scalarTag uri true []) [])
        else throw .malformed

def blockItems : Nat → Parse (List Nat)
  | 0 => throw .malformed
  | fuel + 1 => do
    match ← peek with
    | .blockEntry =>
      advance
      let item ← if ← isOneOf [.blockEntry, .blockEnd] then emptyNode else node fuel true false
      return item :: (← blockItems fuel)
    | .blockEnd => advance; return []
    | _ => throw .malformed

def indentlessItems : Nat → Parse (List Nat)
  | 0 => throw .malformed
  | fuel + 1 => do
    match ← peek with
    | .blockEntry =>
      advance
      let item ← if ← isOneOf [.blockEntry, .key, .value, .blockEnd] then emptyNode
        else node fuel true false
      return item :: (← indentlessItems fuel)
    | _ => return []

def blockEntries : Nat → Parse (List (Nat × Nat))
  | 0 => throw .malformed
  | fuel + 1 => do
    match ← peek with
    | .key =>
      advance
      let key ← if ← isOneOf [.key, .value, .blockEnd] then emptyNode else node fuel true true
      let value ← match ← peek with
        | .value =>
          advance
          if ← isOneOf [.key, .value, .blockEnd] then emptyNode else node fuel true true
        | _ => emptyNode
      return (key, value) :: (← blockEntries fuel)
    | .blockEnd => advance; return []
    | _ => throw .malformed

def flowValue : Nat → Token → Parse Nat
  | 0, _ => throw .malformed
  | fuel + 1, close => do
    match ← peek with
    | .value =>
      advance
      if ← isOneOf [.flowEntry, close] then emptyNode else node fuel false false
    | _ => emptyNode

def flowItems : Nat → Bool → Parse (List Nat)
  | 0, _ => throw .malformed
  | fuel + 1, first => do
    if (← peek) = .flowSequenceEnd then
      advance
      return []
    else
      if !first then expect .flowEntry
      match ← peek with
      | .flowSequenceEnd => advance; return []
      | .key =>
        advance
        let i ← addNode (.mapping .map [])
        let entry ← nested do
          let key ← if ← isOneOf [.value, .flowEntry, .flowSequenceEnd] then emptyNode
            else node fuel false false
          let value ← flowValue fuel .flowSequenceEnd
          return (key, value)
        putNode i (.mapping .map [entry])
        return i :: (← flowItems fuel false)
      | _ =>
        let item ← node fuel false false
        return item :: (← flowItems fuel false)

def flowEntries : Nat → Bool → Parse (List (Nat × Nat))
  | 0, _ => throw .malformed
  | fuel + 1, first => do
    if (← peek) = .flowMappingEnd then
      advance
      return []
    else
      if !first then expect .flowEntry
      match ← peek with
      | .flowMappingEnd => advance; return []
      | .key =>
        advance
        let key ← if ← isOneOf [.value, .flowEntry, .flowMappingEnd] then emptyNode
          else node fuel false false
        let value ← flowValue fuel .flowMappingEnd
        return (key, value) :: (← flowEntries fuel false)
      | _ =>
        let key ← node fuel false false
        let value ← emptyNode
        return (key, value) :: (← flowEntries fuel false)

end

def directives : Nat → Bool → Parse Unit
  | 0, _ => throw .malformed
  | fuel + 1, versioned => do
    match ← peek with
    | .directive d =>
      advance
      match d with
      | .version major =>
        if versioned || major != 1 then throw .malformed
        directives fuel true
      | .tag handle lead =>
        let s ← get
        if (s.handles.lookup handle).isSome then throw .malformed
        set { s with handles := (handle, lead) :: s.handles }
        directives fuel versioned
      | .reserved => directives fuel versioned
    | _ => return ()

def defaultHandles : List (String × String) := [("!", "!"), ("!!", "tag:yaml.org,2002:")]

def documentEnds : Nat → Parse Unit
  | 0 => throw .malformed
  | fuel + 1 => do
    match ← peek with
    | .documentEnd => advance; documentEnds fuel
    | .streamEnd => return ()
    | _ => throw .malformed

def document (fuel : Nat) : Parse (Option Nat) := do
  match ← peek with
  | .streamEnd => return none
  | .directive _ | .documentStart =>
    directives fuel false
    modify fun s => { s with handles := s.handles ++ defaultHandles }
    expect .documentStart
    let bare ← match ← peek with
      | .directive _ | .documentStart | .documentEnd | .streamEnd => pure true
      | _ => pure false
    let root ← if bare then emptyNode else node fuel true false
    documentEnds fuel
    return some root
  | _ =>
    modify fun s => { s with handles := defaultHandles }
    let root ← node fuel true false
    documentEnds fuel
    return some root

end Parse

def graphOf (room : Nat) (cs : List Char) : Except Defect (Option (Array Node × Nat)) :=
  let (ts, defect) := tokens cs
  let fuel := 4 * ts.length + 8
  match (Parse.document fuel).run { tokens := ts, defect, handles := [], room } with
  | .error e => .error e
  | .ok (some root, s) => .ok (some (s.graph.nodes, root))
  | .ok (none, _) => .ok none

end BackupConsole.Yaml
