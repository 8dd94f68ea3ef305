import BackupConsole.Number.Decimal
import BackupConsole.Yaml.Scalar
import Mathlib.Data.List.Basic

set_option autoImplicit false

namespace BackupConsole.Yaml

variable {α β : Type}

def Yields (bad : Defect → Prop) (good : α → Prop) : Except Defect α → Prop
  | .ok a => good a
  | .error e => bad e

namespace Yields

variable {bad worse : Defect → Prop} {good : α → Prop} {after : β → Prop} {x : Except Defect α}
  {f : α → Except Defect β}

theorem bind (first : Yields bad good x) (next : ∀ a, good a → Yields bad after (f a)) :
    Yields bad after (x >>= f) := by
  cases x with
  | ok a => exact next a first
  | error e => exact first

theorem ite {p : Prop} [Decidable p] {x y : Except Defect α} (first : Yields bad good x)
    (second : Yields bad good y) : Yields bad good (if p then x else y) := by
  split
  next => exact first
  next => exact second

theorem of_error {e : Defect} (yields : Yields bad good x) (failed : x = .error e) : bad e := by
  subst failed
  exact yields

theorem of_ok {a : α} (yields : Yields bad good x) (done : x = .ok a) : good a := by
  subst done
  exact yields

theorem of_bad (yields : Yields bad good x) (implied : ∀ e, bad e → worse e) :
    Yields worse good x := by
  cases x with
  | ok a => exact yields
  | error e => exact implied e yields

theorem map {g : α → β} (yields : Yields bad good x) : Yields bad (fun _ => True) (x.map g) := by
  cases x with
  | ok a => trivial
  | error e => exact yields

theorem mapM {xs : List α} (each : ∀ a, Yields bad (fun _ => True) (f a)) :
    Yields bad (fun _ => True) (xs.mapM f) := by
  induction xs with
  | nil => trivial
  | cons x xs ih =>
    rw [List.mapM_cons]
    exact (each x).bind fun _ _ => ih.bind fun _ _ => trivial

theorem foldlM {g : β → α → Except Defect β} {xs : List α} {b : β}
    (each : ∀ b a, Yields bad (fun _ => True) (g b a)) :
    Yields bad (fun _ => True) (xs.foldlM g b) := by
  induction xs generalizing b with
  | nil => trivial
  | cons x xs ih =>
    rw [List.foldlM_cons]
    exact (each b x).bind fun _ _ => ih

end Yields

def Cursor.Within (text : List Char) (c : Cursor) : Prop := c.rest <:+ text

namespace Cursor

variable {text : List Char} {c : Cursor}

theorem Within.step (within : c.Within text) : c.step.Within text := by
  unfold Cursor.step
  cases rest : c.rest with
  | nil => exact within
  | cons ch more =>
    have shorter : more <:+ text := (List.suffix_cons ch more).trans (rest ▸ within)
    simp only
    split <;> exact shorter

theorem rest_eq_cons {ch : Char} (met : c.peek = some ch) : c.rest = ch :: c.step.rest := by
  unfold Cursor.peek at met
  unfold Cursor.step
  cases rest : c.rest with
  | nil => simp [rest] at met
  | cons first more =>
    simp only [rest, List.getElem?_cons_zero, Option.some.injEq] at met
    subst met
    simp only
    split <;> rfl

theorem Within.skip (within : c.Within text) (n : Nat) : (c.skip n).Within text := by
  induction n generalizing c with
  | zero => exact within
  | succ n ih => exact ih within.step

theorem Within.takeWhile (within : c.Within text) (p : Char → Bool) :
    (c.takeWhile p).2.Within text := within.skip _

theorem Within.skipWhile (within : c.Within text) (p : Char → Bool) :
    (c.skipWhile p).Within text := within.takeWhile p

theorem Within.lineBreak (within : c.Within text) : c.lineBreak.2.Within text := by
  unfold Cursor.lineBreak
  split
  next =>
    split
    next => exact within.step
    next =>
      split
      next => exact within.step
      next => exact within
  next => exact within

end Cursor

def Escaped (text : List Char) (code : Nat) : Prop :=
  ∃ before mark digits after, text = before ++ '\\' :: mark :: (digits ++ after) ∧
    escapeWidth? mark = some digits.length ∧ hexNumber? digits = some code

inductive Unscanned (text : List Char) : Defect → Prop
  | malformed : Unscanned text .malformed
  | endless {digits : List Char} (among : digits <:+: text) (numeric : digits.all Char.isDigit)
      (many : Number.longestInteger < digits.length) : Unscanned text .unreadable
  | beyond {code : Nat} (escaped : Escaped text code) (large : 0x110000 ≤ code)
      (counted : code < 0x80000000) : Unscanned text .unreadable
  | uncounted {code : Nat} (escaped : Escaped text code) (large : 0x80000000 ≤ code) :
      Unscanned text .overflow

variable {text : List Char} {c : Cursor}

theorem quotedBreaks_yields (within : c.Within text) (fuel : Nat) :
    Yields (Unscanned text) (fun r => r.2.Within text) (quotedBreaks fuel c) := by
  induction fuel generalizing c with
  | zero => exact .malformed
  | succ fuel ih =>
    unfold quotedBreaks
    split
    next => exact .malformed
    next =>
      have skipped := within.skipWhile isBlank
      dsimp only
      split
      next => exact skipped
      next met =>
        have broken := skipped.lineBreak
        rw [met] at broken
        exact (ih broken).bind fun _ inside => inside

theorem checkedCode_yields {code : Nat} (escaped : Escaped text code) :
    Yields (Unscanned text) (fun _ => True) (checkedCode code) := by
  unfold checkedCode
  split
  next => trivial
  next large =>
    split
    next counted => exact .beyond escaped (Nat.not_lt.1 large) counted
    next uncounted => exact .uncounted escaped (Nat.not_lt.1 uncounted)

theorem quotedEscape_yields {before : List Char} (split : text = before ++ '\\' :: c.rest)
    (fuel : Nat) : Yields (Unscanned text) (fun r => r.2.Within text) (quotedEscape fuel c) := by
  have within : c.Within text := ⟨before ++ ['\\'], by simp [split]⟩
  unfold quotedEscape
  split
  next => exact .malformed
  next ch met =>
    split
    next => exact within.step
    next width _ wide =>
      dsimp only
      split
      next code read =>
        split
        next whole =>
          -- The digits are there in full, so what was taken and what is left make up the text.
          have escaped : Escaped text code := by
            refine ⟨before, ch, c.step.rest.take width, c.step.rest.drop width, ?_, ?_, read⟩
            · rw [List.take_append_drop, ← Cursor.rest_eq_cons met, split]
            · rw [whole, wide]
          exact (checkedCode_yields escaped).bind fun _ _ => within.step.skip width
        next => exact .malformed
      next => exact .malformed
    next =>
      split
      next => exact (quotedBreaks_yields within.lineBreak fuel).bind fun _ inside => inside
      next => exact .malformed

theorem quotedBlanks_yields (within : c.Within text) (fuel : Nat) :
    Yields (Unscanned text) (fun r => r.2.Within text) (quotedBlanks fuel c) := by
  have skipped := within.takeWhile isBlank
  unfold quotedBlanks
  dsimp only
  split
  next => exact .malformed
  next =>
    split
    next => exact (quotedBreaks_yields skipped.lineBreak fuel).bind fun _ inside => inside
    next => exact skipped

theorem quotedFrom_yields (within : c.Within text) (double : Bool) (fuel : Nat) :
    Yields (Unscanned text) (fun r => r.2.Within text) (quotedFrom double fuel c) := by
  induction fuel generalizing c with
  | zero => exact .malformed
  | succ fuel ih =>
    unfold quotedFrom
    split
    next => exact .malformed
    next ch met =>
      split
      next =>
        refine (quotedBlanks_yields within fuel).bind fun r inside => ?_
        exact (ih inside).bind fun _ ended => ended
      next =>
        split
        next marks =>
          -- The escape needs to know that the text before it ends in the backslash.
          have escapes : ch = '\\' := by simpa using (Bool.and_eq_true_iff.1 marks).2
          obtain ⟨before, split⟩ := within
          rw [Cursor.rest_eq_cons met, escapes] at split
          refine (quotedEscape_yields split.symm fuel).bind fun _ inside => ?_
          exact (ih inside).bind fun _ ended => ended
        next =>
          split
          next => exact (ih (within.skip 2)).bind fun _ ended => ended
          next =>
            by_cases closes : ch = (if double then '"' else '\'')
            · rw [if_pos closes]
              exact within.step
            · rw [if_neg closes]
              exact (ih within.step).bind fun _ ended => ended

theorem quotedScalar_yields (within : c.Within text) (double : Bool) :
    Yields (Unscanned text) (fun r => r.2.Within text) (quotedScalar double c) :=
  quotedFrom_yields within.step double _

theorem plainBreaks_within (within : c.Within text) (fuel : Nat) :
    (plainBreaks fuel c).2.Within text := by
  induction fuel generalizing c with
  | zero => exact within
  | succ fuel ih =>
    unfold plainBreaks
    split
    next => exact within
    next =>
      have skipped := within.skipWhile (· = ' ')
      dsimp only
      split
      next => exact skipped
      next met =>
        have broken := skipped.lineBreak
        rw [met] at broken
        exact ih broken

theorem plainGap_within (within : c.Within text) (fuel : Nat) :
    (plainGap fuel c).2.2.Within text := by
  have skipped := within.takeWhile (· = ' ')
  unfold plainGap
  dsimp only
  split
  next => exact skipped
  next met =>
    have broken := skipped.lineBreak
    rw [met] at broken
    have ended := plainBreaks_within broken fuel
    split
    next none => rwa [none] at ended
    next some => rwa [some] at ended

theorem plainFrom_within (within : c.Within text) (flow : Bool) (indent : Int) (fuel : Nat)
    (gap : List Char) (broke : Bool) :
    (plainFrom flow indent fuel gap broke c).2.2.Within text := by
  induction fuel generalizing c gap broke with
  | zero => exact within
  | succ fuel ih =>
    unfold plainFrom
    split
    next => exact within
    next =>
      split
      next => exact within
      next =>
        have ended := plainGap_within (within.skip (plainWord flow c.rest).length) fuel
        dsimp only
        split
        next => exact ended
        next => exact ih ended _ _

theorem plainScalar_within (within : c.Within text) (flow : Bool) (indent : Int) :
    (plainScalar flow indent c).2.2.Within text := plainFrom_within within flow _ _ _ _

theorem restOfLine_yields (within : c.Within text) :
    Yields (Unscanned text) (Cursor.Within text) (restOfLine c) := by
  have skipped := within.skipWhile (· = ' ')
  unfold restOfLine
  dsimp only
  split
  next =>
    split
    next => exact (skipped.skipWhile _).lineBreak
    next => exact .malformed
  next =>
    split
    next => exact skipped.lineBreak
    next => exact .malformed

def chompingAt (c : Cursor) : Chomping × Cursor :=
  match c.peek with
  | some '+' => (.keep, c.step)
  | some '-' => (.strip, c.step)
  | _ => (.clip, c)

def incrementAt (c : Cursor) : Except Defect (Option Nat × Cursor) :=
  match c.peek with
  | some ch =>
    if ch = '0' then .error .malformed
    else if ch.isDigit then .ok (some (ch.toNat - '0'.toNat), c.step)
    else .ok (none, c)
  | none => .ok (none, c)

theorem blockHead_eq (c : Cursor) : blockHead c = incrementAt (chompingAt c).2 >>= fun r =>
    let ended := if (chompingAt c).1 = .clip && r.1.isSome then chompingAt r.2
      else ((chompingAt c).1, r.2)
    if ended.2.peek = some ' ' || atLineEnd ended.2.peek then .ok (ended.1, r.1, ended.2)
    else .error .malformed := rfl

theorem chompingAt_within (within : c.Within text) : (chompingAt c).2.Within text := by
  unfold chompingAt
  split
  next => exact within.step
  next => exact within.step
  next => exact within

theorem incrementAt_yields (within : c.Within text) :
    Yields (Unscanned text) (fun r => r.2.Within text) (incrementAt c) := by
  unfold incrementAt
  split
  next =>
    split
    next => exact .malformed
    next =>
      split
      next => exact within.step
      next => exact within
  next => exact within

theorem blockHead_yields (within : c.Within text) :
    Yields (Unscanned text) (fun r => r.2.2.Within text) (blockHead c) := by
  rw [blockHead_eq]
  refine (incrementAt_yields (chompingAt_within within)).bind fun r measured => ?_
  have ended : (if (chompingAt c).1 = .clip && r.1.isSome then chompingAt r.2
      else ((chompingAt c).1, r.2)).2.Within text := by
    split
    next => exact chompingAt_within measured
    next => exact measured
  dsimp only
  generalize (if (chompingAt c).1 = .clip && r.1.isSome then chompingAt r.2
    else ((chompingAt c).1, r.2)) = head at ended ⊢
  split
  next => exact ended
  next => exact .malformed

theorem blockLead_within (within : c.Within text) (fuel deepest : Nat) :
    (blockLead fuel deepest c).2.2.Within text := by
  induction fuel generalizing c deepest with
  | zero => exact within
  | succ fuel ih =>
    unfold blockLead
    split
    next =>
      split
      next => exact ih within.step _
      next => exact within
    next met =>
      have broken := within.lineBreak
      rw [met] at broken
      exact ih broken _

theorem blockBreaks_within (within : c.Within text) (indent fuel : Nat) :
    (blockBreaks indent fuel c).2.Within text := by
  induction fuel generalizing c with
  | zero => exact within
  | succ fuel ih =>
    have skipped : (skipIndent indent c).Within text := within.skip _
    unfold blockBreaks
    dsimp only
    split
    next => exact skipped
    next met =>
      have broken := skipped.lineBreak
      rw [met] at broken
      exact ih broken

theorem blockLines_within (within : c.Within text) (folded : Bool) (indent fuel : Nat)
    (pending br : List Char) : (blockLines folded indent fuel pending br c).2.2.2.Within text := by
  induction fuel generalizing c pending br with
  | zero => exact within
  | succ fuel ih =>
    have ended := blockBreaks_within (within.takeWhile (!isBreak ·)).lineBreak indent fuel
    unfold blockLines
    split
    next =>
      dsimp only
      split
      next => exact ih ended _ _
      next => exact ended
    next => exact within

theorem blockScalar_yields (within : c.Within text) (folded : Bool) (indent : Int) :
    Yields (Unscanned text) (fun r => r.2.Within text) (blockScalar folded indent c) := by
  refine (blockHead_yields within.step).bind fun head begun => ?_
  obtain ⟨chomping, increment, c⟩ := head
  refine (restOfLine_yields begun).bind fun c lined => ?_
  cases increment with
  | none =>
    dsimp only
    exact blockLines_within (blockLead_within lined _ _) _ _ _ _ _
  | some n =>
    dsimp only
    exact blockLines_within (blockBreaks_within lined _ _) _ _ _ _ _

end BackupConsole.Yaml
