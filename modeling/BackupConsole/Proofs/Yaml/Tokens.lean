import BackupConsole.Proofs.Yaml.Scanning
import BackupConsole.Yaml.TokenStream

set_option autoImplicit false

namespace BackupConsole.Yaml

variable {text : List Char}

namespace ScanState

@[reducible]
def Stays (text : List Char) (step : Step) : Prop :=
  Yields (Unscanned text) (fun s => s.cursor.Within text) step

variable {s : ScanState} {c : Cursor}

theorem cursor_unwind (s : ScanState) (column : Int) : (s.unwind column).cursor = s.cursor := by
  have closed (outer : List Int) (s : ScanState) :
      (unwind.go column outer s).cursor = s.cursor := by
    induction outer generalizing s with
    | nil => rfl
    | cons i outer ih =>
      unfold unwind.go
      split
      next => exact ih _
      next => rfl
  unfold unwind
  split
  next => rfl
  next => exact closed _ s

theorem cursor_indentTo (s : ScanState) (column : Nat) :
    (s.indentTo column).2.cursor = s.cursor := by
  unfold indentTo
  split <;> rfl

theorem within_toNextToken (within : s.cursor.Within text) :
    s.toNextToken.cursor.Within text := by
  have skipped (fuel : Nat) {s : ScanState} (within : s.cursor.Within text) :
      (toNextToken.go fuel s).cursor.Within text := by
    induction fuel generalizing s with
    | zero => exact within
    | succ fuel ih =>
      have blanks := within.skipWhile (· = ' ')
      unfold toNextToken.go
      dsimp only
      have comment : (if (s.cursor.skipWhile (· = ' ')).peek = some '#' then
          (s.cursor.skipWhile (· = ' ')).skipWhile (!isBreak ·)
          else s.cursor.skipWhile (· = ' ')).Within text := by
        split
        next => exact blanks.skipWhile _
        next => exact blanks
      generalize (if (s.cursor.skipWhile (· = ' ')).peek = some '#' then
          (s.cursor.skipWhile (· = ' ')).skipWhile (!isBreak ·)
          else s.cursor.skipWhile (· = ' ')) = c at comment ⊢
      split
      next => exact comment
      next met =>
        have broken := comment.lineBreak
        rw [met] at broken
        exact ih broken
  unfold toNextToken
  apply skipped
  dsimp only
  split
  next => exact within.step
  next => exact within

theorem dropStale_stays (within : s.cursor.Within text) : Stays text s.dropStale := by
  unfold dropStale
  dsimp only
  split
  next => exact .malformed
  next => exact within

theorem forgetCandidate_stays (within : s.cursor.Within text) : Stays text s.forgetCandidate := by
  unfold forgetCandidate
  split
  next =>
    split
    next => exact .malformed
    next => exact within
  next => exact within

theorem noteCandidate_stays (within : s.cursor.Within text) : Stays text s.noteCandidate := by
  unfold noteCandidate
  split
  next => exact (forgetCandidate_stays within).bind fun _ kept => kept
  next => exact within

theorem uriEscapes_yields (fuel : Nat) (cs : List Char) :
    Yields (Unscanned text) (fun _ => True) (uriEscapes fuel cs) := by
  fun_induction uriEscapes fuel cs with
  | case1 => trivial
  | case2 fuel a b rest n _ ih => exact ih.bind fun _ _ => trivial
  | case3 => exact .malformed
  | case4 => exact .malformed
  | case5 => trivial

theorem uriText_yields (fuel : Nat) (cs : List Char) :
    Yields (Unscanned text) (fun _ => True) (uriText fuel cs) := by
  induction fuel generalizing cs with
  | zero => trivial
  | succ fuel ih =>
    unfold uriText
    split
    next => trivial
    next =>
      split
      next =>
        refine (uriEscapes_yields _ _).bind fun bytes _ => ?_
        split
        next => exact (ih _).bind fun _ _ => trivial
        next => exact .malformed
      next =>
        split
        next => exact (ih _).bind fun _ _ => trivial
        next => trivial

theorem takeUri_yields (within : c.Within text) :
    Yields (Unscanned text) (fun r => r.2.Within text) (takeUri c) := by
  refine (uriText_yields _ _).bind fun r _ => ?_
  dsimp only
  split
  next => exact .malformed
  next => exact within.skip _

theorem takeHandle_yields (within : c.Within text) :
    Yields (Unscanned text) (fun r => r.2.Within text) (takeHandle c) := by
  unfold takeHandle
  split
  next => exact .malformed
  next =>
    split
    next => exact within.step
    next =>
      dsimp only
      split
      next => exact (within.step.takeWhile _).step
      next => exact .malformed

theorem takeNumber_yields (within : c.Within text) :
    Yields (Unscanned text) (fun r => r.2.Within text) (takeNumber c) := by
  unfold takeNumber
  dsimp only
  split
  next => exact .malformed
  next =>
    split
    next many =>
      have taken : (c.takeWhile Char.isDigit).1 <:+: text :=
        (List.takeWhile_prefix _).isInfix.trans (List.IsSuffix.isInfix within)
      exact .endless taken List.all_takeWhile many
    next => exact within.takeWhile _

theorem takeDirective_yields (within : c.Within text) :
    Yields (Unscanned text) (fun r => r.2.Within text) (takeDirective c) := by
  have named := within.step.takeWhile isWordChar
  unfold takeDirective
  dsimp only
  split
  next => exact .malformed
  next =>
    split
    next =>
      refine (takeNumber_yields (named.skipWhile _)).bind fun r inside => ?_
      split
      next => exact .malformed
      next =>
        refine (takeNumber_yields inside.step).bind fun r inside => ?_
        split
        next => exact .malformed
        next => exact (restOfLine_yields inside).bind fun _ ended => ended
    next =>
      split
      next =>
        refine (takeHandle_yields (named.skipWhile _)).bind fun r inside => ?_
        split
        next => exact .malformed
        next =>
          refine (takeUri_yields (inside.skipWhile _)).bind fun r inside => ?_
          split
          next => exact .malformed
          next => exact (restOfLine_yields inside).bind fun _ ended => ended
      next => exact (restOfLine_yields (named.skipWhile _)).bind fun _ ended => ended

theorem takeName_yields (within : c.Within text) :
    Yields (Unscanned text) (fun r => r.2.Within text) (takeName c) := by
  unfold takeName
  dsimp only
  split
  all_goals
    split
    next => exact .malformed
    next => exact within.step.takeWhile _

theorem takeTag_yields (within : c.Within text) :
    Yields (Unscanned text) (fun r => r.2.Within text) (takeTag c) := by
  have ended (token : Token) {c : Cursor} (inside : c.Within text) :
      Yields (Unscanned text) (fun r => r.2.Within text)
        (if endsField c.peek then .ok (token, c) else .error .malformed) := by
    split
    next => exact inside
    next => exact .malformed
  unfold takeTag
  dsimp only
  split
  next =>
    refine (takeUri_yields (within.skip 2)).bind fun r inside => ?_
    split
    next => exact .malformed
    next => exact ended _ inside.step
  next =>
    split
    next => exact ended _ within.step
    next =>
      split
      next =>
        refine (takeHandle_yields within).bind fun handle inside => ?_
        exact (takeUri_yields inside).bind fun _ read => ended _ read
      next => exact (takeUri_yields within.step).bind fun _ read => ended _ read

theorem closeAll_stays (within : s.cursor.Within text) : Stays text s.closeAll := by
  have closed : (s.unwind (-1)).cursor.Within text := cursor_unwind s (-1) ▸ within
  exact (forgetCandidate_stays closed).bind fun _ kept => kept

theorem scanEnd_stays (within : s.cursor.Within text) : Stays text s.scanEnd :=
  (closeAll_stays within).bind fun _ kept => kept

theorem scanMarker_stays (within : s.cursor.Within text) (t : Token) :
    Stays text (s.scanMarker t) :=
  (closeAll_stays within).bind fun _ kept => kept.skip 3

theorem openFlow_stays (within : s.cursor.Within text) (t : Token) : Stays text (s.openFlow t) :=
  (noteCandidate_stays within).bind fun _ kept => kept.step

theorem closeFlow_stays (within : s.cursor.Within text) (t : Token) : Stays text (s.closeFlow t) :=
  (forgetCandidate_stays within).bind fun _ kept => kept.step

theorem openBlock_stays (within : s.cursor.Within text) (t : Token) :
    Stays text (s.openBlock t) := by
  have opened : (s.indentTo s.cursor.column).2.cursor.Within text := by
    rw [cursor_indentTo]
    exact within
  unfold openBlock
  split
  next => exact within
  next =>
    split
    next => exact .malformed
    next =>
      split
      next met => rwa [met] at opened
      next met => rwa [met] at opened

theorem scanBlockEntry_stays (within : s.cursor.Within text) : Stays text s.scanBlockEntry := by
  refine (openBlock_stays within _).bind fun s opened => ?_
  exact (forgetCandidate_stays (s := { s with keysAllowed := true }) opened).bind
    fun _ kept => kept.step

theorem scanKey_stays (within : s.cursor.Within text) : Stays text s.scanKey := by
  refine (openBlock_stays within _).bind fun s opened => ?_
  exact (forgetCandidate_stays (s := { s with keysAllowed := !s.inFlow }) opened).bind
    fun _ kept => kept.step

theorem scanValue_stays (within : s.cursor.Within text) : Stays text s.scanValue := by
  unfold scanValue
  split
  next k _ =>
    have placed : (if { s with candidates := s.candidates.filter (·.1 != s.flow) }.inFlow then
        (false, { s with candidates := s.candidates.filter (·.1 != s.flow) }) else
        { s with candidates := s.candidates.filter (·.1 != s.flow) }.indentTo
          k.column).2.cursor.Within text := by
      split
      next => exact within
      next =>
        rw [cursor_indentTo]
        exact within
    exact placed.step
  next =>
    refine (openBlock_stays within _).bind fun s opened => ?_
    exact (forgetCandidate_stays (s := { s with keysAllowed := !s.inFlow }) opened).bind
      fun _ kept => kept.step

theorem scanContent_stays {take : Cursor → Except Defect (Token × Cursor)}
    (within : s.cursor.Within text)
    (taken : ∀ c : Cursor, c.Within text →
      Yields (Unscanned text) (fun r => r.2.Within text) (take c)) :
    Stays text (s.scanContent take) := by
  refine (noteCandidate_stays within).bind fun s noted => ?_
  exact (taken _ noted).bind fun _ ended => ended

theorem scanBlockScalar_stays (within : s.cursor.Within text) (folded : Bool) :
    Stays text (s.scanBlockScalar folded) := by
  refine (forgetCandidate_stays (s := { s with keysAllowed := true }) within).bind
    fun s kept => ?_
  exact (blockScalar_yields kept folded _).bind fun _ ended => ended

theorem scanPlain_stays (within : s.cursor.Within text) : Stays text s.scanPlain :=
  (noteCandidate_stays within).bind fun _ noted => plainScalar_within noted _ _

theorem scanToken_stays (within : s.cursor.Within text) (ch : Char) :
    Stays text (s.scanToken ch) := by
  have named (make : String → Token) (c : Cursor) (inside : c.Within text) :
      Yields (Unscanned text) (fun r => r.2.Within text)
        (takeName c >>= fun r => .ok (make r.1, r.2)) :=
    (takeName_yields inside).bind fun _ ended => ended
  have quoted (double : Bool) (c : Cursor) (inside : c.Within text) :
      Yields (Unscanned text) (fun r => r.2.Within text)
        (quotedScalar double c >>= fun r => .ok (Token.scalar r.1 false, r.2)) :=
    (quotedScalar_yields inside double).bind fun _ ended => ended
  -- One case for each kind of token, in the order in which they are told apart.
  refine .ite ?_ <| .ite ?_ <| .ite ?_ <| .ite ?_ <| .ite ?_ <| .ite ?_ <| .ite ?_ <| .ite ?_ <|
    .ite ?_ <| .ite ?_ <| .ite ?_ <| .ite ?_ <| .ite ?_ <| .ite ?_ <| .ite ?_ <| .ite ?_ <|
    .ite ?_ <| .ite ?_ <| .ite ?_ ?_
  · refine (closeAll_stays within).bind fun s closed => ?_
    exact (takeDirective_yields closed).bind fun _ ended => ended
  · exact scanMarker_stays within _
  · exact scanMarker_stays within _
  · exact openFlow_stays within _
  · exact openFlow_stays within _
  · exact closeFlow_stays within _
  · exact closeFlow_stays within _
  · exact (forgetCandidate_stays (s := { s with keysAllowed := true }) within).bind
      fun _ kept => kept.step
  · exact scanBlockEntry_stays within
  · exact scanKey_stays within
  · exact scanValue_stays within
  · exact scanContent_stays within (named .reference)
  · exact scanContent_stays within (named .anchor)
  · exact scanContent_stays within fun _ inside => takeTag_yields inside
  · exact scanBlockScalar_stays within false
  · exact scanBlockScalar_stays within true
  · exact scanContent_stays within (quoted false)
  · exact scanContent_stays within (quoted true)
  · exact scanPlain_stays within
  · exact .malformed

theorem next_yields (within : s.cursor.Within text) :
    Yields (Unscanned text) (fun r => r.1.cursor.Within text) s.next := by
  have unwound : (s.unwind s.cursor.column).cursor.Within text := by
    rw [cursor_unwind]
    exact within
  unfold next
  dsimp only
  split
  next => exact (scanEnd_stays unwound).bind fun _ ended => ended
  next => exact (scanToken_stays unwound _).bind fun _ ended => ended

theorem unscanned_of_run (within : s.cursor.Within text) (fuel : Nat) {e : Defect}
    (stopped : (run fuel s).2 = some e) : Unscanned text e := by
  -- By induction on the steps left; that the cursor stays in the text carries it.
  induction fuel generalizing s with
  | zero =>
    cases stopped
    exact .malformed
  | succ fuel ih =>
    have fresh := dropStale_stays (within_toNextToken within)
    unfold run at stopped
    split at stopped
    next failed =>
      cases stopped
      exact fresh.of_error failed
    next s' kept =>
      have moved := next_yields (fresh.of_ok kept)
      split at stopped
      next failed =>
        cases stopped
        exact moved.of_error failed
      next => cases stopped
      next went => exact ih (moved.of_ok went) stopped

end ScanState

theorem unscanned_of_tokens {e : Defect} (stopped : (tokens text).2 = some e) :
    Unscanned text e := by
  have begun : (Cursor.ofChars text).Within text := List.suffix_rfl
  exact ScanState.unscanned_of_run (s := { cursor := .ofChars text }) begun (text.length + 2)
    stopped

end BackupConsole.Yaml
