import BackupConsole.Proofs.Yaml.Tokens
import BackupConsole.Yaml.Node

set_option autoImplicit false

namespace BackupConsole.Yaml

namespace Parse

variable {α β : Type}

def Keeps (m : Parse α) : Prop :=
  ∀ s : ParseState, Yields (fun e => e = .malformed ∨ e = .tooDeep ∨ s.defect = some e)
    (fun r => r.2.defect = s.defect) (m.run s)

namespace Keeps

theorem bind {m : Parse α} {f : α → Parse β} (first : Keeps m) (next : ∀ a, Keeps (f a)) :
    Keeps (m >>= f) := by
  intro s
  refine Yields.bind (first s) fun r kept => ?_
  have ended := next r.1 r.2
  rw [kept] at ended
  exact ended

theorem pure (a : α) : Keeps (pure a) := fun _ => rfl

theorem throw : Keeps (throw .malformed : Parse α) := fun _ => .inl rfl

theorem get : Keeps (MonadState.get : Parse ParseState) := fun _ => rfl

theorem alter {f : ParseState → ParseState} (kept : ∀ s, (f s).defect = s.defect) :
    Keeps (modify f : Parse PUnit) := fun s => kept s

theorem ite {p : Prop} [Decidable p] {m n : Parse α} (first : Keeps m) (second : Keeps n) :
    Keeps (if p then m else n) := by
  split
  next => exact first
  next => exact second

theorem peek : Keeps peek := by
  intro s
  obtain ⟨tokens, defect, handles, graph, room⟩ := s
  cases tokens with
  | cons t rest => exact rfl
  | nil =>
    cases defect with
    | none => exact .inl rfl
    | some e => exact .inr (.inr rfl)

theorem handles (f : List (String × String) → List (String × String)) :
    Keeps (modify fun s => { s with handles := f s.handles } : Parse PUnit) := alter fun _ => rfl

theorem update {p : ParseState → Bool} {f : ParseState → ParseState} {m : Parse α}
    (kept : ∀ s, (f s).defect = s.defect) (next : Keeps m) :
    Keeps (do
      let s ← MonadState.get
      if p s then MonadExcept.throw .malformed
      MonadStateOf.set (f s)
      m) := by
  intro s
  have after := next (f s)
  rw [kept] at after
  change Yields _ _ ((if p s then _ else _ : Parse α) s)
  -- The state that is asked is the one that is changed, which `get` and `set` apart do not say.
  cases p s with
  | true => exact .inl rfl
  | false => exact after

theorem advance : Keeps advance := alter fun _ => rfl

theorem addNode (n : Node) : Keeps (addNode n) := fun _ => rfl

theorem putNode (i : Nat) (n : Node) : Keeps (putNode i n) := alter fun _ => rfl

theorem addAnchor (name : Option String) (i : Nat) : Keeps (addAnchor name i) := by
  refine alter fun s => ?_
  cases name <;> rfl

theorem emptyNode : Keeps emptyNode := addNode _

theorem expect (t : Token) : Keeps (expect t) :=
  peek.bind fun _ => ite advance throw

theorem isOneOf (ts : List Token) : Keeps (isOneOf ts) := peek.bind fun _ => pure _

theorem step {p : Prop} [Decidable p] {m : Parse PUnit} {f : PUnit → Parse α} (made : Keeps m)
    (next : ∀ u, Keeps (f u)) : Keeps (if p then m >>= f else f ⟨⟩) :=
  ite (made.bind next) (next ⟨⟩)

theorem orEmpty {m : Parse Nat} {f : Nat → Parse α} (ts : List Token) (given : Keeps m)
    (next : ∀ i, Keeps (f i)) :
    Keeps (Parse.isOneOf ts >>= fun left => if left then Parse.emptyNode >>= f else m >>= f) :=
  (isOneOf ts).bind fun _ => ite (emptyNode.bind next) (given.bind next)

theorem nested {inside : Parse α} (read : Keeps inside) : Keeps (nested inside) := by
  intro s
  unfold Parse.nested
  obtain ⟨tokens, defect, handles, graph, room⟩ := s
  cases room with
  | zero => exact .inr (.inl rfl)
  | succ room =>
    exact (read ⟨tokens, defect, handles, graph, room⟩).bind fun _ kept => kept

theorem properties : Keeps properties := by
  refine peek.bind fun t => ?_
  split
  next =>
    refine advance.bind fun _ => peek.bind fun t => ?_
    split
    next => exact advance.bind fun _ => pure _
    next => exact pure _
  next =>
    refine advance.bind fun _ => peek.bind fun t => ?_
    split
    next => exact advance.bind fun _ => pure _
    next => exact pure _
  next => exact pure _

theorem tagUri (tag : Option (Option String × String)) : Keeps (tagUri tag) := by
  unfold Parse.tagUri
  split
  next => exact pure _
  next => exact pure _
  next =>
    refine get.bind fun s => ?_
    split
    next => exact pure _
    next => exact throw

end Keeps

structure KeepsAll (fuel : Nat) : Prop where
  node : ∀ block indentless, Keeps (node fuel block indentless)
  blockItems : Keeps (blockItems fuel)
  indentlessItems : Keeps (indentlessItems fuel)
  blockEntries : Keeps (blockEntries fuel)
  flowValue : ∀ close, Keeps (flowValue fuel close)
  flowItems : ∀ first, Keeps (flowItems fuel first)
  flowEntries : ∀ first, Keeps (flowEntries fuel first)

variable {fuel : Nat}

theorem blockItems_keeps (ih : KeepsAll fuel) : Keeps (Parse.blockItems (fuel + 1)) := by
  rw [Parse.blockItems]
  refine Keeps.peek.bind fun t => ?_
  split
  next =>
    exact Keeps.advance.bind fun _ => Keeps.orEmpty _ (ih.node _ _) fun _ =>
      ih.blockItems.bind fun _ => Keeps.pure _
  next => exact Keeps.advance.bind fun _ => Keeps.pure _
  next => exact Keeps.throw

theorem indentlessItems_keeps (ih : KeepsAll fuel) :
    Keeps (Parse.indentlessItems (fuel + 1)) := by
  rw [Parse.indentlessItems]
  refine Keeps.peek.bind fun t => ?_
  split
  next =>
    exact Keeps.advance.bind fun _ => Keeps.orEmpty _ (ih.node _ _) fun _ =>
      ih.indentlessItems.bind fun _ => Keeps.pure _
  next => exact Keeps.pure _

theorem blockEntries_keeps (ih : KeepsAll fuel) : Keeps (Parse.blockEntries (fuel + 1)) := by
  have rest (key value : Nat) : Keeps (do return (key, value) :: (← Parse.blockEntries fuel)) :=
    ih.blockEntries.bind fun _ => Keeps.pure _
  rw [Parse.blockEntries]
  refine Keeps.peek.bind fun t => ?_
  split
  next =>
    refine Keeps.advance.bind fun _ => Keeps.orEmpty _ (ih.node _ _) fun key => ?_
    refine Keeps.peek.bind fun t => ?_
    split
    next =>
      exact Keeps.advance.bind fun _ => Keeps.orEmpty _ (ih.node _ _) fun value => rest key value
    next => exact Keeps.emptyNode.bind fun value => rest key value
  next => exact Keeps.advance.bind fun _ => Keeps.pure _
  next => exact Keeps.throw

theorem flowValue_keeps (ih : KeepsAll fuel) (close : Token) :
    Keeps (Parse.flowValue (fuel + 1) close) := by
  rw [Parse.flowValue]
  refine Keeps.peek.bind fun t => ?_
  split
  next =>
    exact Keeps.advance.bind fun _ => (Keeps.isOneOf _).bind fun _ =>
      Keeps.ite Keeps.emptyNode (ih.node _ _)
  next => exact Keeps.emptyNode

theorem flowItems_keeps (ih : KeepsAll fuel) (first : Bool) :
    Keeps (Parse.flowItems (fuel + 1) first) := by
  have rest (i : Nat) : Keeps (do return i :: (← Parse.flowItems fuel false)) :=
    (ih.flowItems _).bind fun _ => Keeps.pure _
  rw [Parse.flowItems]
  refine Keeps.peek.bind fun t => Keeps.ite (Keeps.advance.bind fun _ => Keeps.pure _) ?_
  refine Keeps.step (Keeps.expect _) fun _ => Keeps.peek.bind fun t => ?_
  split
  next => exact Keeps.advance.bind fun _ => Keeps.pure _
  next =>
    refine Keeps.advance.bind fun _ => (Keeps.addNode _).bind fun i => ?_
    refine (Keeps.nested ?_).bind fun entry => (Keeps.putNode _ _).bind fun _ => rest i
    exact Keeps.orEmpty _ (ih.node _ _) fun key => (ih.flowValue _).bind fun _ => Keeps.pure _
  next => exact (ih.node _ _).bind rest

theorem flowEntries_keeps (ih : KeepsAll fuel) (first : Bool) :
    Keeps (Parse.flowEntries (fuel + 1) first) := by
  have rest (key value : Nat) :
      Keeps (do return (key, value) :: (← Parse.flowEntries fuel false)) :=
    (ih.flowEntries _).bind fun _ => Keeps.pure _
  rw [Parse.flowEntries]
  refine Keeps.peek.bind fun t => Keeps.ite (Keeps.advance.bind fun _ => Keeps.pure _) ?_
  refine Keeps.step (Keeps.expect _) fun _ => Keeps.peek.bind fun t => ?_
  split
  next => exact Keeps.advance.bind fun _ => Keeps.pure _
  next =>
    refine Keeps.advance.bind fun _ => Keeps.orEmpty _ (ih.node _ _) fun key => ?_
    exact (ih.flowValue _).bind fun value => rest key value
  next => exact (ih.node _ _).bind fun key => Keeps.emptyNode.bind fun value => rest key value

theorem node_keeps (ih : KeepsAll fuel) (block indentless : Bool) :
    Keeps (Parse.node (fuel + 1) block indentless) := by
  have begins (anchor : Option String) (n : Node) :
      Keeps (do let i ← addNode n; addAnchor anchor i; return i) :=
    (Keeps.addNode n).bind fun i => (Keeps.addAnchor anchor i).bind fun _ => Keeps.pure i
  have fills {α : Type} {items : Parse α} (anchor : Option String) (empty : Node)
      (filled : α → Node) (listed : Keeps items) :
      Keeps (do
        let i ← (do let i ← addNode empty; addAnchor anchor i; return i)
        putNode i (filled (← nested items))
        return i) :=
    (begins anchor empty).bind fun i => (Keeps.nested listed).bind fun _ =>
      (Keeps.putNode _ _).bind fun _ => Keeps.pure i
  rw [Parse.node]
  refine Keeps.peek.bind fun t => ?_
  split
  next =>
    refine Keeps.advance.bind fun _ => Keeps.get.bind fun s => ?_
    split
    next => exact Keeps.pure _
    next => exact Keeps.throw
  next =>
    refine Keeps.properties.bind fun props => (Keeps.tagUri _).bind fun uri => ?_
    refine Keeps.get.bind fun s => Keeps.step Keeps.throw fun _ => Keeps.peek.bind fun t => ?_
    have bare : Keeps (if props.1.isSome || props.2.isSome then
        (do
          let i ← addNode (.scalar (scalarTag uri true []) [])
          addAnchor props.1 i
          return i) else throw .malformed : Parse Nat) := Keeps.ite (begins _ _) Keeps.throw
    split
    next => exact Keeps.advance.bind fun _ => begins _ _
    next => exact Keeps.advance.bind fun _ => fills _ _ _ (ih.flowItems _)
    next => exact Keeps.advance.bind fun _ => fills _ _ _ (ih.flowEntries _)
    next => exact Keeps.ite (fills _ _ _ ih.indentlessItems) bare
    next => exact Keeps.ite (Keeps.advance.bind fun _ => fills _ _ _ ih.blockItems) bare
    next => exact Keeps.ite (Keeps.advance.bind fun _ => fills _ _ _ ih.blockEntries) bare
    next => exact bare

theorem keepsAll (fuel : Nat) : KeepsAll fuel := by
  -- The parts of a document hold one another, so one induction is for all of them.
  induction fuel with
  | zero =>
    constructor
    all_goals
      intros
      exact Keeps.throw
  | succ fuel ih =>
    exact {
      node := node_keeps ih
      blockItems := blockItems_keeps ih
      indentlessItems := indentlessItems_keeps ih
      blockEntries := blockEntries_keeps ih
      flowValue := flowValue_keeps ih
      flowItems := flowItems_keeps ih
      flowEntries := flowEntries_keeps ih }

theorem directives_keeps (fuel : Nat) (versioned : Bool) : Keeps (directives fuel versioned) := by
  induction fuel generalizing versioned with
  | zero => exact Keeps.throw
  | succ fuel ih =>
    rw [directives]
    refine Keeps.peek.bind fun t => ?_
    split
    next d =>
      refine Keeps.advance.bind fun _ => ?_
      split
      next => exact Keeps.step Keeps.throw fun _ => ih _
      next handle lead =>
        exact Keeps.update (f := fun s => { s with handles := (handle, lead) :: s.handles })
          (fun _ => rfl) (ih _)
      next => exact ih _
    next => exact Keeps.pure _

theorem documentEnds_keeps (fuel : Nat) : Keeps (documentEnds fuel) := by
  induction fuel with
  | zero => exact Keeps.throw
  | succ fuel ih =>
    rw [documentEnds]
    refine Keeps.peek.bind fun t => ?_
    split
    next => exact Keeps.advance.bind fun _ => ih
    next => exact Keeps.pure _
    next => exact Keeps.throw

theorem document_keeps (fuel : Nat) : Keeps (document fuel) := by
  have ended (root : Nat) : Keeps (do documentEnds fuel; return some root) :=
    (documentEnds_keeps fuel).bind fun _ => Keeps.pure _
  have bare := ((keepsAll fuel).node true false).bind ended
  have rooted (empty : Bool) : Keeps (if empty then
        emptyNode >>= fun root => do documentEnds fuel; return some root
      else node fuel true false >>= fun root => do documentEnds fuel; return some root) :=
    Keeps.ite (Keeps.emptyNode.bind ended) bare
  unfold document
  refine Keeps.peek.bind fun t => ?_
  split
  next => exact Keeps.pure _
  next =>
    refine (directives_keeps fuel false).bind fun _ =>
      (Keeps.handles (· ++ defaultHandles)).bind fun _ => (Keeps.expect _).bind fun _ =>
      Keeps.peek.bind fun t => ?_
    split
    all_goals exact (Keeps.pure _).bind fun _ => rooted _
  next =>
    refine (directives_keeps fuel false).bind fun _ =>
      (Keeps.handles (· ++ defaultHandles)).bind fun _ => (Keeps.expect _).bind fun _ =>
      Keeps.peek.bind fun t => ?_
    split
    all_goals exact (Keeps.pure _).bind fun _ => rooted _
  next => exact (Keeps.handles fun _ => defaultHandles).bind fun _ => bare

end Parse

theorem unscanned_of_graphOf {room : Nat} {text : List Char} {e : Defect}
    (unread : graphOf room text = .error e) : e = .tooDeep ∨ Unscanned text e := by
  have read := Parse.document_keeps (4 * (tokens text).1.length + 8)
    { tokens := (tokens text).1, defect := (tokens text).2, handles := [], room }
  unfold graphOf at unread
  dsimp only at unread
  split at unread
  next failed =>
    cases unread
    obtain rfl | rfl | stopped := read.of_error failed
    · exact .inr .malformed
    · exact .inl rfl
    · exact .inr (unscanned_of_tokens stopped)
  next => cases unread
  next => cases unread

end BackupConsole.Yaml
