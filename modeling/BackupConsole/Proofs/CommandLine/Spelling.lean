import BackupConsole.CommandLine.Scan
import Mathlib.Data.List.Nodup

set_option autoImplicit false

namespace BackupConsole.CommandLine

variable {switches : List Switch}

inductive Letters (switches : List Switch) :
    List Char → List Typed → Option Switch → Prop
  | nil : Letters switches [] [] none
  | bare {c : Char} {rest : List Char} {s : Switch} {typed : List Typed} {pending : Option Switch}
      (own : s ∈ switches) (named : s.name = String.ofList ['-', c])
      (fixed : s.intake.takesValue = false) (later : Letters switches rest typed pending) :
      Letters switches (c :: rest) (⟨s, ""⟩ :: typed) pending
  | awaiting {c : Char} {s : Switch} (own : s ∈ switches)
      (named : s.name = String.ofList ['-', c]) (takes : s.intake.takesValue = true) :
      Letters switches [c] [] (some s)
  | attached {c : Char} {value : List Char} {s : Switch} (own : s ∈ switches)
      (named : s.name = String.ofList ['-', c]) (takes : s.intake.takesValue = true)
      (present : value ≠ []) :
      Letters switches (c :: value) [⟨s, String.ofList value⟩] none

inductive Argument (switches : List Switch) :
    List Char → List Typed → Option Switch → Prop
  | assigned {s : Switch} (own : s ∈ switches) (long : s.isLong = true)
      (takes : s.intake.takesValue = true) (value : List Char) :
      Argument switches (s.name.toList ++ '=' :: value) [⟨s, String.ofList value⟩] none
  | awaiting {s : Switch} (own : s ∈ switches) (long : s.isLong = true)
      (takes : s.intake.takesValue = true) : Argument switches s.name.toList [] (some s)
  | bare {s : Switch} (own : s ∈ switches) (long : s.isLong = true)
      (fixed : s.intake.takesValue = false) : Argument switches s.name.toList [⟨s, ""⟩] none
  | short {cs : List Char} {typed : List Typed} {pending : Option Switch}
      (letters : Letters switches cs typed pending) : Argument switches ('-' :: cs) typed pending

/-- The switches and the words of a line. Where they may not be mixed, the first word ends the
switches. -/
inductive Spells (switches : List Switch) (mixed : Bool) :
    List String → List Typed → List String → Prop
  | nil : Spells switches mixed [] [] []
  | ended (words : List String) : Spells switches mixed (endOfSwitches :: words) [] words
  | switches {arg : String} {rest : List String} {typed later : List Typed} {words : List String}
      (going : arg ≠ endOfSwitches) (switch : isSwitch arg = true)
      (argument : Argument switches arg.toList typed none)
      (after : Spells switches mixed rest later words) :
      Spells switches mixed (arg :: rest) (typed ++ later) words
  | valued {arg value : String} {s : Switch} {rest : List String} {typed later : List Typed}
      {words : List String} (going : arg ≠ endOfSwitches) (switch : isSwitch arg = true)
      (argument : Argument switches arg.toList typed (some s))
      (after : Spells switches mixed rest later words) :
      Spells switches mixed (arg :: value :: rest) (typed ++ ⟨s, value⟩ :: later) words
  | word {arg : String} {rest : List String} {typed : List Typed} {words : List String}
      (going : arg ≠ endOfSwitches) (plain : isSwitch arg = false) (mixing : mixed = true)
      (after : Spells switches mixed rest typed words) :
      Spells switches mixed (arg :: rest) typed (arg :: words)
  | words {arg : String} {rest : List String} (going : arg ≠ endOfSwitches)
      (plain : isSwitch arg = false) (unmixed : mixed = false) :
      Spells switches mixed (arg :: rest) [] (arg :: rest)

theorem Letters.own {cs : List Char} {typed : List Typed} {pending : Option Switch}
    (letters : Letters switches cs typed pending) :
    (∀ t ∈ typed, t.switch ∈ switches) ∧ ∀ s, pending = some s → s ∈ switches := by
  induction letters with
  | nil => simp
  | bare own _ _ _ ih => exact ⟨List.forall_mem_cons.2 ⟨own, ih.1⟩, ih.2⟩
  | awaiting own => simpa using own
  | attached own => simpa using own

theorem Argument.own {cs : List Char} {typed : List Typed} {pending : Option Switch}
    (argument : Argument switches cs typed pending) :
    (∀ t ∈ typed, t.switch ∈ switches) ∧ ∀ s, pending = some s → s ∈ switches := by
  cases argument with
  | assigned own => simpa using own
  | awaiting own => simpa using own
  | bare own => simpa using own
  | short letters => exact letters.own

theorem Spells.own {mixed : Bool} {args words : List String} {typed : List Typed}
    (spells : Spells switches mixed args typed words) : ∀ t ∈ typed, t.switch ∈ switches := by
  induction spells with
  | nil => simp
  | ended => simp
  | switches _ _ argument _ ih =>
    intro t member
    rcases List.mem_append.1 member with here | later
    · exact argument.own.1 t here
    · exact ih t later
  | valued _ _ argument _ ih =>
    intro t member
    rcases List.mem_append.1 member with here | later
    · exact argument.own.1 t here
    · rcases List.mem_cons.1 later with rfl | later
      · exact argument.own.2 _ rfl
      · exact ih t later
  | word _ _ _ _ ih => exact ih
  | words => simp

theorem splitValue_assigned {name : List Char} (unassigned : '=' ∉ name) (value : List Char) :
    splitValue (name ++ '=' :: value) = (name, some value) := by
  induction name with
  | nil => rfl
  | cons c rest ih =>
    rw [List.mem_cons, not_or] at unassigned
    have split := ih unassigned.2
    simp only [splitValue, Prod.mk.injEq] at split ⊢
    simp [Ne.symm unassigned.1, split]

theorem splitValue_unassigned {name : List Char} (unassigned : '=' ∉ name) :
    splitValue name = (name, none) := by
  induction name with
  | nil => rfl
  | cons c rest ih =>
    rw [List.mem_cons, not_or] at unassigned
    have split := ih unassigned.2
    simp only [splitValue, Prod.mk.injEq] at split ⊢
    simp [Ne.symm unassigned.1, split]

def longOf (value : Option (List Char)) (s : Switch) : Piece :=
  match s.intake.takesValue, value with
  | true, some v => { typed := [⟨s, String.ofList v⟩] }
  | true, none => { pending := some s }
  | false, some _ => { problem := some (.takesNoValue s.name) }
  | false, none => { typed := [⟨s, ""⟩] }

theorem longPiece?_eq (switches : List Switch) (arg : List Char) :
    longPiece? switches arg =
      (switches.find? fun s => s.isLong && s.name == String.ofList (splitValue arg).1).map
        (longOf (splitValue arg).2) := rfl

theorem longPiece?_of_single (switches : List Switch) {cs : List Char}
    (single : ['-', '-'].isPrefixOf ('-' :: cs) = false) :
    longPiece? switches ('-' :: cs) = none := by
  rw [longPiece?_eq, Option.map_eq_none_iff, List.find?_eq_none]
  intro s own found
  simp only [Bool.and_eq_true, beq_iff_eq] at found
  obtain ⟨long, named⟩ := found
  -- A long name is the first part of its argument, which then starts with two dashes as well.
  rw [Switch.isLong, named, String.toList_ofList, List.isPrefixOf_iff_prefix] at long
  have ahead : (splitValue ('-' :: cs)).1 <+: '-' :: cs := List.takeWhile_prefix _
  rw [List.isPrefixOf_iff_prefix.2 (long.trans ahead)] at single
  cases single

theorem dash_of_isSwitch {arg : String} (switch : isSwitch arg = true) :
    ∃ cs, arg.toList = '-' :: cs := by
  unfold isSwitch at switch
  split at switch
  next c cs dashed => exact ⟨c :: cs, dashed⟩
  next => cases switch

structure Orderly (switches : List Switch) : Prop where
  distinct : (switches.map (·.name)).Nodup
  unassigned : ∀ s ∈ switches, s.isLong = true → '=' ∉ s.name.toList
  going : ∀ s ∈ switches, s.name ≠ endOfSwitches

theorem orderly_globalSwitches : Orderly globalSwitches :=
  ⟨by decide, by decide, by decide⟩

theorem orderly_switchesOf (command : Command) : Orderly (switchesOf command) := by
  cases command <;> exact ⟨by decide, by decide, by decide⟩

theorem orderly_help : Orderly [.help] := ⟨by decide, by decide, by decide⟩

namespace Orderly

variable (orderly : Orderly switches)
include orderly

theorem eq_of_name {s t : Switch} (own : s ∈ switches) (other : t ∈ switches)
    (same : s.name = t.name) : s = t :=
  List.inj_on_of_nodup_map orderly.distinct own other same

theorem find_eq_some_iff {p : Switch → Bool} {name : String} {s : Switch} :
    switches.find? (fun t => p t && t.name == name) = some s ↔
      s ∈ switches ∧ p s = true ∧ s.name = name := by
  constructor
  · intro found
    have holds := List.find?_some found
    simp only [Bool.and_eq_true, beq_iff_eq] at holds
    exact ⟨List.mem_of_find?_eq_some found, holds⟩
  · rintro ⟨own, allowed, rfl⟩
    have present : (switches.find? fun t => p t && t.name == s.name).isSome := by
      rw [List.find?_isSome]
      exact ⟨s, own, by simp [allowed]⟩
    obtain ⟨t, found⟩ := Option.isSome_iff_exists.1 present
    have named := List.find?_some found
    simp only [Bool.and_eq_true, beq_iff_eq] at named
    rw [found, orderly.eq_of_name (List.mem_of_find?_eq_some found) own named.2]

theorem find_name_eq_some_iff {name : String} {s : Switch} :
    switches.find? (fun t => t.name == name) = some s ↔ s ∈ switches ∧ s.name = name := by
  have unrestricted := @find_eq_some_iff switches orderly (fun _ => true) name s
  simpa using unrestricted

theorem cluster_iff {cs : List Char} {typed : List Typed} {pending : Option Switch} :
    cluster switches cs = { typed, pending } ↔ Letters switches cs typed pending := by
  constructor
  · intro read
    induction cs generalizing typed pending with
    | nil =>
      cases read
      exact .nil
    | cons c rest ih =>
      cases found : switches.find? fun t => t.name == String.ofList ['-', c] with
      | none =>
        simp only [cluster, found] at read
        cases read
      | some s =>
        obtain ⟨own, named⟩ := orderly.find_name_eq_some_iff.1 found
        cases takes : s.intake.takesValue with
        | true =>
          simp only [cluster, found, takes, if_true] at read
          cases rest with
          | nil =>
            cases read
            exact .awaiting own named takes
          | cons d value =>
            cases read
            exact .attached own named takes (List.cons_ne_nil _ _)
        | false =>
          simp only [cluster, found, takes, Bool.false_eq_true, if_false] at read
          cases after : cluster switches rest with
          | mk later wait problem =>
            rw [after] at read
            cases read
            exact .bare own named takes (ih after)
  · intro letters
    induction letters with
    | nil => rfl
    | bare own named fixed _ ih =>
      have found := orderly.find_name_eq_some_iff.2 ⟨own, named⟩
      simp only [cluster, found, fixed, ih, Bool.false_eq_true, if_false]
    | awaiting own named takes =>
      have found := orderly.find_name_eq_some_iff.2 ⟨own, named⟩
      simp only [cluster, found, takes, List.isEmpty_nil, if_true]
    | attached own named takes present =>
      have found := orderly.find_name_eq_some_iff.2 ⟨own, named⟩
      have filled := List.isEmpty_eq_false_iff.2 present
      simp only [cluster, found, takes, filled, Bool.false_eq_true, if_true, if_false]

theorem not_letters_dash {rest : List Char} {typed : List Typed} {pending : Option Switch} :
    ¬ Letters switches ('-' :: rest) typed pending := by
  intro letters
  cases letters with
  | bare own named => exact orderly.going _ own named
  | awaiting own named => exact orderly.going _ own named
  | attached own named => exact orderly.going _ own named

theorem longPiece?_of_split {arg : List Char} {value : Option (List Char)} {s : Switch}
    (own : s ∈ switches) (long : s.isLong = true)
    (split : splitValue arg = (s.name.toList, value)) :
    longPiece? switches arg = some (longOf value s) := by
  have found := orderly.find_eq_some_iff.2 ⟨own, long, rfl⟩
  rw [longPiece?_eq, split, String.ofList_toList, found]
  rfl

theorem argument_of_long {arg : List Char} {typed : List Typed} {pending : Option Switch}
    (long : longPiece? switches arg = some { typed, pending }) :
    Argument switches arg typed pending := by
  have joined := splitValue_join arg
  rw [longPiece?_eq] at long
  obtain ⟨s, found, read⟩ := Option.map_eq_some_iff.1 long
  obtain ⟨own, isLong, named⟩ := orderly.find_eq_some_iff.1 found
  rw [← String.toList_ofList (l := (splitValue arg).1), ← named] at joined
  cases takes : s.intake.takesValue with
  | true =>
    cases value : (splitValue arg).2 with
    | some v =>
      simp only [longOf, takes, value] at read joined
      cases read
      exact joined ▸ .assigned own isLong takes v
    | none =>
      simp only [longOf, takes, value, List.append_nil] at read joined
      cases read
      exact joined ▸ .awaiting own isLong takes
  | false =>
    cases value : (splitValue arg).2 with
    | some v =>
      simp only [longOf, takes, value] at read
      cases read
    | none =>
      simp only [longOf, takes, value, List.append_nil] at read joined
      cases read
      exact joined ▸ .bare own isLong takes

theorem piece_iff {cs : List Char} {typed : List Typed} {pending : Option Switch} :
    piece switches ('-' :: cs) = { typed, pending } ↔
      Argument switches ('-' :: cs) typed pending := by
  constructor
  · intro read
    unfold piece at read
    split at read
    next p long => exact orderly.argument_of_long (read ▸ long)
    next =>
      split at read
      next => cases read
      next => exact .short (orderly.cluster_iff.1 read)
  · intro argument
    generalize whole : '-' :: cs = arg at argument
    cases argument with
    | @assigned s own long takes value =>
      have split := splitValue_assigned (orderly.unassigned s own long) value
      rw [piece, orderly.longPiece?_of_split own long split]
      simp only [longOf, takes]
    | @awaiting s own long takes =>
      have split := splitValue_unassigned (orderly.unassigned s own long)
      rw [piece, orderly.longPiece?_of_split own long split]
      simp only [longOf, takes]
    | @bare s own long fixed =>
      have split := splitValue_unassigned (orderly.unassigned s own long)
      rw [piece, orderly.longPiece?_of_split own long split]
      simp only [longOf, fixed]
    | short letters =>
      cases whole
      -- A second dash would be a letter, and no switch is named by two dashes.
      have single : ['-', '-'].isPrefixOf ('-' :: cs) = false := by
        cases cs with
        | nil => rfl
        | cons c rest =>
          have other : c ≠ '-' := by
            rintro rfl
            exact orderly.not_letters_dash letters
          simp [List.isPrefixOf, other.symm]
      rw [piece, longPiece?_of_single switches single, single]
      exact orderly.cluster_iff.2 letters

theorem piece_switch_iff {arg : String} {typed : List Typed} {pending : Option Switch}
    (switch : isSwitch arg = true) :
    piece switches arg.toList = { typed, pending } ↔
      Argument switches arg.toList typed pending := by
  obtain ⟨cs, dashed⟩ := dash_of_isSwitch switch
  rw [dashed]
  exact orderly.piece_iff

theorem scan_of_spells {mixed : Bool} {args words : List String} {typed : List Typed}
    (spells : Spells switches mixed args typed words) :
    scan switches mixed args = { typed, words } := by
  induction spells with
  | nil => rfl
  | ended words => simp [scan]
  | switches going switch argument after ih =>
    have read := (orderly.piece_switch_iff switch).2 argument
    simp only [scan, going, switch, read, ih, if_true, if_false]
    rfl
  | valued going switch argument after ih =>
    have read := (orderly.piece_switch_iff switch).2 argument
    simp only [scan, going, switch, read, ih, if_true, if_false]
    simp [Scan.after]
  | word going plain mixing after ih =>
    subst mixing
    simp [scan, going, plain, ih]
  | words going plain unmixed =>
    simp [scan, going, plain, unmixed]

theorem spells_of_scan {mixed : Bool} {args words : List String} {typed : List Typed}
    (read : scan switches mixed args = { typed, words }) :
    Spells switches mixed args typed words := by
  match args with
  | [] =>
    cases read
    exact .nil
  | arg :: rest =>
    by_cases going : arg = endOfSwitches
    · rw [scan, if_pos going] at read
      cases read
      subst going
      exact .ended _
    cases switch : isSwitch arg with
    | false =>
      cases mixed with
      | false =>
        simp only [scan, going, switch, Bool.false_eq_true, if_false] at read
        cases read
        exact .words going switch rfl
      | true =>
        simp only [scan, going, switch, Bool.false_eq_true, if_true, if_false] at read
        cases after : scan switches true rest with
        | mk later left mistake =>
          rw [after] at read
          cases read
          exact .word going switch rfl (spells_of_scan after)
    | true =>
      cases said : piece switches arg.toList with
      | mk first pending problem =>
        simp only [scan, going, switch, said, if_true, if_false] at read
        cases problem with
        | some e => cases read
        | none =>
          cases pending with
          | none =>
            have argument := (orderly.piece_switch_iff switch).1 said
            cases after : scan switches mixed rest with
            | mk later left mistake =>
              simp only [after] at read
              cases read
              exact .switches going switch argument (spells_of_scan after)
          | some s =>
            have argument := (orderly.piece_switch_iff switch).1 said
            cases rest with
            | nil => cases read
            | cons value rest =>
              cases after : scan switches mixed rest with
              | mk later left mistake =>
                simp only [after] at read
                cases read
                rw [List.append_assoc]
                exact .valued going switch argument (spells_of_scan after)
termination_by args.length

end Orderly

end BackupConsole.CommandLine
