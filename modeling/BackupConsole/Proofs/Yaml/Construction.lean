import BackupConsole.Proofs.Yaml.Nodes
import BackupConsole.Yaml.Document

set_option autoImplicit false

namespace BackupConsole.Yaml

def Tag.defects : Tag → List Defect
  | .bool => [.unknownWord]
  | .int => [.emptyNumber, .unreadable]
  | .float => [.emptyNumber, .unreadable, .overflow]
  | .timestamp => [.notATime, .unreadable]
  | _ => []

theorem integerIn_yields (base : Nat) (cs : List Char) :
    Yields (· = .unreadable) (fun _ => True) (integerIn base cs) := by
  unfold integerIn
  dsimp only
  split
  next => exact .ite rfl trivial
  next => rfl

theorem realPart_yields (cs : List Char) :
    Yields (· = .unreadable) (fun _ => True) (realPart cs) := by
  unfold realPart
  split
  next => trivial
  next => rfl

theorem addSixtieth_yields (sum : Float × Int) (x : Float) :
    Yields (· = .overflow) (fun _ => True) (addSixtieth sum x) := by
  unfold addSixtieth
  split
  next => trivial
  next => rfl

theorem intValue_yields (cs : List Char) :
    Yields (· ∈ Tag.int.defects) (fun _ => True) (intValue cs) := by
  have empty : .emptyNumber ∈ Tag.int.defects := by decide
  have unreadable : .unreadable ∈ Tag.int.defects := by decide
  have read (base : Nat) (cs : List Char) :
      Yields (· ∈ Tag.int.defects) (fun _ => True) (integerIn base cs) :=
    (integerIn_yields base cs).of_bad fun _ same => same ▸ unreadable
  unfold intValue
  dsimp only
  split
  next => exact empty
  next => exact empty
  next => trivial
  next => exact (read _ _).bind fun _ _ => trivial
  next => exact (read _ _).bind fun _ _ => trivial
  next => exact (read _ _).bind fun _ _ => trivial
  next =>
    split
    next => exact (Yields.mapM fun _ => read _ _).bind fun _ _ => trivial
    next => exact (read _ _).bind fun _ _ => trivial

theorem floatValue_yields (cs : List Char) :
    Yields (· ∈ Tag.float.defects) (fun _ => True) (floatValue cs) := by
  have empty : .emptyNumber ∈ Tag.float.defects := by decide
  have unreadable : .unreadable ∈ Tag.float.defects := by decide
  have overflow : .overflow ∈ Tag.float.defects := by decide
  have read (cs : List Char) : Yields (· ∈ Tag.float.defects) (fun _ => True) (realPart cs) :=
    (realPart_yields cs).of_bad fun _ same => same ▸ unreadable
  have added (sum : Float × Int) (x : Float) :
      Yields (· ∈ Tag.float.defects) (fun _ => True) (addSixtieth sum x) :=
    (addSixtieth_yields sum x).of_bad fun _ same => same ▸ overflow
  unfold floatValue
  dsimp only
  split
  next => exact empty
  next =>
    split
    next => trivial
    next =>
      split
      next => trivial
      next =>
        split
        next =>
          exact (Yields.mapM read).bind fun _ _ => (Yields.foldlM added).bind fun _ _ => trivial
        next => exact (read _).bind fun _ _ => trivial

theorem timeValue_yields (cs : List Char) :
    Yields (· ∈ Tag.timestamp.defects) (fun _ => True) (timeValue cs) := by
  have other : .notATime ∈ Tag.timestamp.defects := by decide
  have unread : .unreadable ∈ Tag.timestamp.defects := by decide
  unfold timeValue
  dsimp only
  split
  next => exact other
  next =>
    split
    next => exact .ite trivial unread
    next => exact .ite trivial unread

theorem boolValue_yields (cs : List Char) :
    Yields (· ∈ Tag.bool.defects) (fun _ => True) (boolValue cs) := by
  have unknown : .unknownWord ∈ Tag.bool.defects := by decide
  unfold boolValue
  split
  next => trivial
  next => exact unknown

theorem binaryValue_yields (cs : List Char) :
    Yields (· = .malformed) (fun _ => True) (binaryValue cs) := by
  unfold binaryValue
  split
  next =>
    split
    next => trivial
    next => rfl
  next => rfl

theorem scalarValue_yields (tag : Tag) (codes : List Nat) :
    Yields (fun e => e = .malformed ∨ e ∈ tag.defects) (fun _ => True) (scalarValue tag codes) := by
  cases tag with
  | null | str => trivial
  | bool => exact (boolValue_yields _).map.of_bad fun _ => .inr
  | int => exact (intValue_yields _).map.of_bad fun _ => .inr
  | float => exact (floatValue_yields _).map.of_bad fun _ => .inr
  | binary => exact (binaryValue_yields _).map.of_bad fun _ => .inl
  | timestamp => exact (timeValue_yields _).of_bad fun _ => .inr
  | omap | pairs | set | seq | map | merge | value | other => exact .inl rfl

inductive Node.Recast : Node → Node → Prop
  | scalar {tag new : Tag} {codes : List Nat} (tagged : new = tag ∨ new = .str) :
      Recast (.scalar tag codes) (.scalar new codes)
  | sequence {tag new : Tag} {items : List Nat} (tagged : new = tag ∨ new = .str) :
      Recast (.sequence tag items) (.sequence new items)
  | mapping {tag new : Tag} {entries others : List (Nat × Nat)} (tagged : new = tag ∨ new = .str) :
      Recast (.mapping tag entries) (.mapping new others)

def Stems (graph nodes : Nodes) : Prop :=
  ∀ (i : Nat) (n : Node), nodes[i]? = some n →
    ∃ first : Node, graph[i]? = some first ∧ first.Recast n

namespace Stems

variable {graph nodes : Nodes}

theorem refl : Stems graph graph := by
  intro i n found
  refine ⟨n, found, ?_⟩
  cases n with
  | scalar => exact .scalar (.inl rfl)
  | sequence => exact .sequence (.inl rfl)
  | mapping => exact .mapping (.inl rfl)

theorem modify {f : Node → Node} (stems : Stems graph nodes) (i : Nat)
    (recast : ∀ first n : Node, first.Recast n → first.Recast (f n)) :
    Stems graph (nodes.modify i f) := by
  intro j n found
  rw [Array.getElem?_modify] at found
  split at found
  next =>
    obtain ⟨old, present, rfl⟩ := Option.map_eq_some_iff.1 found
    obtain ⟨first, began, same⟩ := stems j old present
    exact ⟨first, began, recast first old same⟩
  next => exact stems j n found

theorem setEntries (stems : Stems graph nodes) (i : Nat) (entries : List (Nat × Nat)) :
    Stems graph (setEntries nodes i entries) := by
  refine stems.modify i fun first n recast => ?_
  cases recast with
  | scalar tagged => exact .scalar tagged
  | sequence tagged => exact .sequence tagged
  | mapping tagged => exact .mapping tagged

theorem asText (stems : Stems graph nodes) (i : Nat) : Stems graph (asText nodes i) := by
  refine stems.modify i fun first n recast => ?_
  cases recast with
  | scalar => exact .scalar (.inr rfl)
  | sequence => exact .sequence (.inr rfl)
  | mapping => exact .mapping (.inr rfl)

end Stems

def Defect.OfShape (e : Defect) : Prop := e = .malformed ∨ e = .tooDeep

/-- With this much fuel, merging keeps to the nodes of the graph, and fails only where nodes do
not fit together. -/
structure Merges (graph : Nodes) (fuel : Nat) : Prop where
  mapping : ∀ {nodes : Nodes} (room i place : Nat) (merged : List (Nat × Nat)),
    Stems graph nodes →
      Yields Defect.OfShape (Stems graph) (mergeFrom fuel room i place merged nodes)
  items : ∀ {nodes : Nodes} (room : Nat) (items : List Nat), Stems graph nodes →
    Yields Defect.OfShape (fun r => Stems graph r.2) (mergeItems fuel room items nodes)

theorem Merges.mapping_succ {graph nodes : Nodes} {fuel : Nat} (merges : Merges graph fuel)
    (stems : Stems graph nodes) (room i place : Nat) (merged : List (Nat × Nat)) :
    Yields Defect.OfShape (Stems graph) (mergeFrom (fuel + 1) room i place merged nodes) := by
  cases room with
  | zero =>
    rw [mergeFrom]
    · exact .inr rfl
    · exact Nat.succ_ne_zero fuel
  | succ room =>
    rw [mergeFrom]
    dsimp only
    split
    next => exact stems
    next =>
      split
      next =>
        split
        next => exact stems
        next => exact stems.setEntries _ _
      next =>
        split
        next =>
          split
          next =>
            refine (merges.mapping _ _ _ _ (stems.setEntries _ _)).bind fun _ => ?_
            exact merges.mapping _ _ _ _
          next =>
            refine (merges.items _ _ (stems.setEntries _ _)).bind fun _ => ?_
            exact merges.mapping _ _ _ _
          next => exact .inl rfl
        next => exact merges.mapping _ _ _ _ (stems.asText _)
        next => exact merges.mapping _ _ _ _ stems

theorem Merges.items_succ {graph nodes : Nodes} {fuel : Nat} (merges : Merges graph fuel)
    (stems : Stems graph nodes) (room : Nat) (items : List Nat) :
    Yields Defect.OfShape (fun r => Stems graph r.2) (mergeItems (fuel + 1) room items nodes) := by
  cases items with
  | nil =>
    rw [mergeItems]
    · exact stems
    · exact Nat.succ_ne_zero fuel
  | cons item rest =>
    rw [mergeItems]
    split
    next =>
      refine (merges.mapping _ _ _ _ stems).bind fun _ kept => ?_
      exact (merges.items _ _ kept).bind fun _ kept => kept
    next => exact .inl rfl

theorem merges (graph : Nodes) (fuel : Nat) : Merges graph fuel := by
  -- Each of the two calls the other with less fuel.
  induction fuel with
  | zero =>
    refine ⟨fun room i place merged _ => ?_, fun room items _ => ?_⟩
    · rw [mergeFrom]
      exact .inl rfl
    · rw [mergeItems]
      exact .inl rfl
  | succ fuel ih =>
    exact ⟨fun room i place merged stems => ih.mapping_succ stems room i place merged,
      fun room items stems => ih.items_succ stems room items⟩

/-- What is wrong with a graph that has no value: its nodes do not fit together, or a tag does not
admit the text that it finds at a node. A mapping shows the text that is under its key `=`. -/
inductive Unbuilt (graph : Nodes) : Defect → Prop
  | shape {e : Defect} (shape : e.OfShape) : Unbuilt graph e
  | scalar {i : Nat} {tag : Tag} {codes : List Nat} {e : Defect}
      (found : graph[i]? = some (.scalar tag codes)) (unread : scalarValue tag codes = .error e)
      (kind : e ∈ tag.defects) : Unbuilt graph e
  | shown {i j : Nat} {tag own : Tag} {entries : List (Nat × Nat)} {codes : List Nat} {e : Defect}
      (found : graph[i]? = some (.mapping tag entries)) (other : tag ≠ .timestamp)
      (under : graph[j]? = some (.scalar own codes)) (unread : scalarValue tag codes = .error e)
      (kind : e ∈ tag.defects) : Unbuilt graph e
  | dated {i : Nat} {entries : List (Nat × Nat)}
      (found : graph[i]? = some (.mapping .timestamp entries)) : Unbuilt graph .wrongType

section

variable {graph nodes : Nodes} {b : Build}

theorem tagAt_of_found {i : Nat} {n : Node} (found : nodes[i]? = some n) :
    tagAt nodes i = n.tag := by
  simp only [tagAt, found]

theorem Unbuilt.malformed : Unbuilt graph .malformed := .shape (.inl rfl)

theorem scalarText_yields (nodes : Nodes) (room i : Nat) :
    Yields Defect.OfShape (fun _ => True) (scalarText nodes room i) := by
  induction room generalizing i with
  | zero => exact .inr rfl
  | succ room ih =>
    rw [scalarText]
    split
    next => trivial
    next =>
      split
      next => exact ih _
      next => exact .inl rfl
    next => exact .inl rfl

theorem scalar_of_scalarText {room i : Nat} {codes : List Nat}
    (text : scalarText nodes room i = .ok codes) :
    ∃ (j : Nat) (own : Tag), nodes[j]? = some (.scalar own codes) := by
  induction room generalizing i with
  | zero => cases text
  | succ room ih =>
    rw [scalarText] at text
    split at text
    next found =>
      cases text
      exact ⟨_, _, found⟩
    next =>
      split at text
      next => exact ih text
      next => cases text
    next => cases text

theorem ne_str_of_unread {tag : Tag} {codes : List Nat} {e : Defect}
    (unread : scalarValue tag codes = .error e) : tag ≠ .str := by
  rintro rfl
  cases unread

theorem Stems.unbuilt_of_scalarValue (stems : Stems graph nodes) {room i : Nat} {codes : List Nat}
    {e : Defect} (text : scalarText nodes room i = .ok codes)
    (undated : ∀ entries, nodes[i]? ≠ some (.mapping .timestamp entries))
    (unread : scalarValue (tagAt nodes i) codes = .error e) : Unbuilt graph e := by
  obtain ⟨j, _, under⟩ := scalar_of_scalarText text
  obtain ⟨_, beneath, recast⟩ := stems j _ under
  cases recast with
  | scalar =>
    obtain rfl | kind := (scalarValue_yields _ _).of_error unread
    · exact .malformed
    -- A text is never refused, so the tag that refuses is the one the graph has.
    cases room with
    | zero => cases text
    | succ room =>
      rw [scalarText] at text
      cases found : nodes[i]? with
      | none => simp [found] at text
      | some n =>
        rw [tagAt_of_found found] at unread kind
        obtain ⟨_, present, recast⟩ := stems i n found
        cases recast with
        | scalar tagged =>
          obtain rfl : _ = codes := by simpa [found] using text
          obtain rfl := tagged.resolve_right (ne_str_of_unread unread)
          exact .scalar present unread kind
        | sequence => simp [found] at text
        | mapping tagged =>
          obtain rfl := tagged.resolve_right (ne_str_of_unread unread)
          refine .shown present ?_ beneath unread kind
          rintro rfl
          exact undated _ found

theorem valueAt_yields (stems : Stems graph b.nodes) (i : Nat) :
    Yields (Unbuilt graph) (fun r => Stems graph r.2.nodes) (valueAt b i) := by
  unfold valueAt
  dsimp only
  split
  next =>
    split
    next => exact stems
    next => exact stems
  next =>
    cases text : scalarText b.nodes b.reader.showing i with
    | error e => exact .shape ((scalarText_yields _ _ _).of_error text)
    | ok codes =>
      split
      next tagged found =>
        obtain ⟨_, present, recast⟩ := stems i _ found
        -- Nor is a time a text that merging made: the mapping is tagged so in the graph.
        rw [tagAt_of_found found] at tagged
        cases tagged
        cases recast with
        | mapping same =>
          obtain rfl := same.resolve_right (by decide)
          exact .dated present
      next undated =>
        change Yields _ _ (scalarValue (tagAt b.nodes i) codes >>= fun v => pure (v, b))
        cases read : scalarValue (tagAt b.nodes i) codes with
        | ok v => exact stems
        | error e =>
          refine stems.unbuilt_of_scalarValue text (fun entries found => ?_) read
          exact undated _ _ (tagAt_of_found found) found

theorem buildEntries_yields (stems : Stems graph b.nodes) (entries : List (Nat × Nat))
    (done : List (Given × Given)) :
    Yields (Unbuilt graph) (fun r => Stems graph r.2.nodes) (buildEntries entries done b) := by
  induction entries generalizing done b with
  | nil => exact stems
  | cons entry rest ih =>
    refine (valueAt_yields stems _).bind fun key kept => ?_
    dsimp only
    split
    next => exact .malformed
    next => exact (valueAt_yields kept _).bind fun _ kept => ih kept _

theorem buildItems_yields (stems : Stems graph b.nodes) (items : List Nat) :
    Yields (Unbuilt graph) (fun r => Stems graph r.nodes) (buildItems items b) := by
  induction items generalizing b with
  | nil => exact stems
  | cons item rest ih => exact (valueAt_yields stems _).bind fun _ kept => ih kept

theorem buildPairs_yields (stems : Stems graph b.nodes) (items : List Nat) :
    Yields (Unbuilt graph) (fun r => Stems graph r.nodes) (buildPairs items b) := by
  induction items generalizing b with
  | nil => exact stems
  | cons item rest ih =>
    rw [buildPairs]
    split
    next =>
      refine (valueAt_yields stems _).bind fun _ kept => ?_
      exact (valueAt_yields kept _).bind fun _ kept => ih kept
    next => exact .malformed

theorem buildCollection_yields (stems : Stems graph b.nodes) (i : Nat) :
    Yields (Unbuilt graph) (fun r => Stems graph r.2.nodes) (buildCollection b i) := by
  have filled : Yields (Unbuilt graph) (fun r => Stems graph r.2.nodes)
      (buildCollection.entriesOf b i) := by
    have merged := (merges graph (mergeFuel b.nodes)).mapping b.reader.merging i 0 [] stems
    exact (merged.of_bad fun _ => .shape).bind fun _ kept =>
      buildEntries_yields (b := { b with nodes := _ }) kept _ _
  unfold buildCollection
  split
  next => exact (buildItems_yields stems _).bind fun _ kept => kept
  next => exact (buildPairs_yields stems _).bind fun _ kept => kept
  next => exact (buildPairs_yields stems _).bind fun _ kept => kept
  next => exact filled
  next => exact filled
  next => exact .malformed

theorem buildRest_yields (stems : Stems graph b.nodes) (fuel : Nat) :
    Yields (Unbuilt graph) (fun _ => True) (buildRest fuel b) := by
  induction fuel generalizing b with
  | zero => exact .malformed
  | succ fuel ih =>
    rw [buildRest]
    split
    next => trivial
    next queue _ =>
      exact (buildCollection_yields (b := { b with queue := queue }) stems _).bind
        fun _ kept => ih kept

end

inductive Blamed (reader : Reader) (text : List Char) (e : Defect) : Prop
  | deep (nodes : graphOf reader.nesting text = .error .tooDeep) (deep : e = .tooDeep)
  | unscanned (unscanned : Unscanned text e)
  | unbuilt {graph : Nodes} {root : Nat}
      (nodes : graphOf reader.nesting text = .ok (some (graph, root))) (unbuilt : Unbuilt graph e)

theorem blamed_of_documentOf {reader : Reader} {text : List Char} {e : Defect}
    (spoilt : documentOf reader text = .error e) : Blamed reader text e := by
  have made : Yields (Blamed reader text) (fun _ => True) (documentOf reader text) := by
    unfold documentOf
    split
    next => exact .unscanned .malformed
    next =>
      cases nodes : graphOf reader.nesting text with
      | error e =>
        obtain rfl | unscanned := unscanned_of_graphOf nodes
        · exact .deep nodes rfl
        · exact .unscanned unscanned
      | ok found =>
        cases found with
        | none => trivial
        | some root =>
          obtain ⟨graph, root⟩ := root
          refine Yields.of_bad ?_ fun e (unbuilt : Unbuilt graph e) => .unbuilt nodes unbuilt
          have valued := valueAt_yields (b := { reader, nodes := graph }) .refl root
          refine valued.bind fun r stems => ?_
          dsimp only
          split
          next => trivial
          next =>
            refine (buildCollection_yields (b := { r.2 with queue := [] }) stems root).bind
              fun _ kept => ?_
            exact (buildRest_yields kept _).bind fun _ _ => trivial
          next => exact (buildRest_yields stems _).bind fun _ _ => trivial
          next => trivial
  exact made.of_error spoilt

end BackupConsole.Yaml
