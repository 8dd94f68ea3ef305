import BackupConsole.Yaml.Scalars

/-!
The value of a YAML document as far as a flat configuration needs it: the keys and values of the
top mapping, where a value that is itself a collection keeps only its kind. All of the document is
still built, breadth first and each collection once, because a defect anywhere spoils it.
-/

set_option autoImplicit false

namespace BackupConsole.Yaml

abbrev Nodes := Array Node

def tagAt (nodes : Nodes) (i : Nat) : Tag :=
  match nodes[i]? with
  | some n => n.tag
  | none => .other

def entriesAt (nodes : Nodes) (i : Nat) : List (Nat × Nat) :=
  match nodes[i]? with
  | some (.mapping _ entries) => entries
  | _ => []

def setEntries (nodes : Nodes) (i : Nat) (entries : List (Nat × Nat)) : Nodes :=
  nodes.modify i fun
    | .mapping tag _ => .mapping tag entries
    | n => n

def asText (nodes : Nodes) (i : Nat) : Nodes :=
  nodes.modify i fun
    | .scalar _ codes => .scalar .str codes
    | .sequence _ items => .sequence .str items
    | .mapping _ entries => .mapping .str entries

-- Steps that merging can take: every entry and item is met at most once per chain.
def mergeFuel (nodes : Nodes) : Nat :=
  nodes.foldl (fun n node => n + match node with
    | .scalar _ _ => 1
    | .sequence _ items => 1 + 2 * items.length
    | .mapping _ entries => 1 + 2 * entries.length) 16

def hasMerge (nodes : Nodes) (i : Nat) : Bool :=
  (entriesAt nodes i).any fun (key, _) =>
    tagAt nodes key = .merge || tagAt nodes key = .value

mutual

/-- Replaces `<<` entries by the entries of the mappings they name. Those come first, so the
mapping's own entries win; of several mappings the earlier one wins. Mappings that are merged are
completed before, as deep as there is room. -/
def mergeFrom : Nat → Nat → Nat → Nat → List (Nat × Nat) → Nodes → Except Defect Nodes
  | 0, _, _, _, _, _ => .error .malformed
  | _, 0, _, _, _, _ => .error .tooDeep
  | fuel + 1, room + 1, i, place, merged, nodes =>
    let entries := entriesAt nodes i
    if place = 0 && merged.isEmpty && !hasMerge nodes i then .ok nodes else
    match entries[place]? with
    | none => .ok (if merged.isEmpty then nodes else setEntries nodes i (merged ++ entries))
    | some (key, value) =>
      match tagAt nodes key with
      | .merge =>
        -- The entry goes first, so that a mapping that merges itself comes to an end.
        let nodes := setEntries nodes i (entries.eraseIdx place)
        match nodes[value]? with
        | some (.mapping _ _) => do
          let nodes ← mergeFrom fuel room value 0 [] nodes
          mergeFrom fuel (room + 1) i place (merged ++ entriesAt nodes value) nodes
        | some (.sequence _ items) => do
          let (more, nodes) ← mergeItems fuel room items nodes
          mergeFrom fuel (room + 1) i place (merged ++ more) nodes
        | _ => .error .malformed
      | .value => mergeFrom fuel (room + 1) i (place + 1) merged (asText nodes key)
      | _ => mergeFrom fuel (room + 1) i (place + 1) merged nodes

def mergeItems : Nat → Nat → List Nat → Nodes → Except Defect (List (Nat × Nat) × Nodes)
  | 0, _, _, _ => .error .malformed
  | _, _, [], nodes => .ok ([], nodes)
  | fuel + 1, room, item :: rest, nodes =>
    match nodes[item]? with
    | some (.mapping _ _) => do
      let nodes ← mergeFrom fuel room item 0 [] nodes
      let (more, nodes) ← mergeItems fuel room rest nodes
      return (more ++ entriesAt nodes item, nodes)
    | _ => .error .malformed

end

/-- The construction so far: merged nodes, collections already met, and those still to build. -/
structure Build where
  reader : Reader
  nodes : Nodes
  met : List Nat := []
  queue : List Nat := []

/-- The text a scalar tag finds at a node: a scalar's own, or that under the key `=`, which may be
one that shows another in turn. -/
def scalarText (nodes : Nodes) : Nat → Nat → Except Defect (List Nat)
  | 0, _ => .error .tooDeep
  | room + 1, i =>
    match nodes[i]? with
    | some (.scalar _ codes) => .ok codes
    | some (.mapping _ entries) =>
      match entries.find? fun (key, _) => tagAt nodes key = .value with
      | some (_, value) => scalarText nodes room value
      | none => .error .malformed
    | _ => .error .malformed

def collectionKind : Tag → Option Collection
  | .seq => some .list
  | .omap => some .list
  | .pairs => some .list
  | .map => some .dict
  | .set => some .set
  | _ => none

/-- The value of a node. A collection is queued when it is first met and built later. -/
def valueAt (b : Build) (i : Nat) : Except Defect (Given × Build) :=
  let tag := tagAt b.nodes i
  match collectionKind tag with
  | some kind =>
    let b := if b.met.contains i then b
      else { b with met := i :: b.met, queue := b.queue ++ [i] }
    .ok (.collection kind, b)
  | none => do
    let codes ← scalarText b.nodes b.reader.showing i
    match tag, b.nodes[i]? with
    | .timestamp, some (.mapping _ _) => .error .wrongType
    | _, _ =>
      let v ← scalarValue tag codes
      return (v, b)

def insertLast (entries : List (Given × Given)) (key value : Given) : List (Given × Given) :=
  if entries.any fun (k, _) => k.sameKey key then
    entries.map fun (k, v) => if k.sameKey key then (k, value) else (k, v)
  else entries ++ [(key, value)]

-- Keys must be scalars. The last value of a repeated key counts.
def buildEntries : List (Nat × Nat) → List (Given × Given) → Build →
    Except Defect (List (Given × Given) × Build)
  | [], done, b => .ok (done, b)
  | (key, value) :: rest, done, b => do
    let (k, b) ← valueAt b key
    match k with
    | .collection _ => .error .malformed
    | _ =>
      let (v, b) ← valueAt b value
      buildEntries rest (insertLast done k v) b

def buildItems : List Nat → Build → Except Defect Build
  | [], b => .ok b
  | item :: rest, b => do
    let (_, b) ← valueAt b item
    buildItems rest b

def buildPairs : List Nat → Build → Except Defect Build
  | [], b => .ok b
  | item :: rest, b =>
    match b.nodes[item]? with
    | some (.mapping _ [(key, value)]) => do
      let (_, b) ← valueAt b key
      let (_, b) ← valueAt b value
      buildPairs rest b
    | _ => .error .malformed

def buildCollection (b : Build) (i : Nat) : Except Defect (List (Given × Given) × Build) :=
  match tagAt b.nodes i, b.nodes[i]? with
  | .seq, some (.sequence _ items) => do
    let b ← buildItems items b
    return ([], b)
  | .omap, some (.sequence _ items) => do
    let b ← buildPairs items b
    return ([], b)
  | .pairs, some (.sequence _ items) => do
    let b ← buildPairs items b
    return ([], b)
  | .map, some (.mapping _ _) => entriesOf
  | .set, some (.mapping _ _) => entriesOf
  | _, _ => .error .malformed
where
  entriesOf := do
    let nodes ← mergeFrom (mergeFuel b.nodes) b.reader.merging i 0 [] b.nodes
    buildEntries (entriesAt nodes i) [] { b with nodes := nodes }

def buildRest : Nat → Build → Except Defect Unit
  | 0, _ => .error .malformed
  | fuel + 1, b =>
    match b.queue with
    | [] => .ok ()
    | i :: queue => do
      let (_, b) ← buildCollection { b with queue := queue } i
      buildRest fuel b

inductive Document
  | empty
  | mapping (entries : List (Given × Given))
  | other (value : Given)
  deriving DecidableEq

def isText (c : Char) : Bool :=
  let n := c.toNat
  n = 0x9 || n = 0xa || n = 0xd || (0x20 ≤ n && n ≤ 0x7e) || n = 0x85 ||
    (0xa0 ≤ n && n ≤ 0xd7ff) || (0xe000 ≤ n && n ≤ 0xfffd) || 0x10000 ≤ n

def documentOf (reader : Reader) (cs : List Char) : Except Defect Document := do
  if !cs.all isText then .error .malformed
  else
    match ← graphOf reader.nesting cs with
    | none => return .empty
    | some (nodes, root) =>
      let (value, b) ← valueAt { reader, nodes } root
      let fuel := nodes.size + 2
      match value with
      | .null => return .empty
      | .collection .dict =>
        -- The top is filled before anything that it holds.
        let (entries, b) ← buildCollection { b with queue := [] } root
        buildRest fuel b
        return .mapping entries
      | .collection _ =>
        buildRest fuel b
        return .other value
      | _ => return .other value

end BackupConsole.Yaml
