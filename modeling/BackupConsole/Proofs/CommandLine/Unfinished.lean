import BackupConsole.Proofs.CommandLine.Line

set_option autoImplicit false

namespace BackupConsole.CommandLine

variable {switches : List Switch} {args : List String} {typed : List Typed} {word : String}
  {values : List (Slot × Given)}

theorem Spells.append (spells : Spells switches false args typed [])
    (going : word ≠ endOfSwitches) (plain : isSwitch word = false) (rest : List String) :
    Spells switches false (args ++ word :: rest) typed (word :: rest) := by
  generalize left : ([] : List String) = words at spells
  induction spells with
  | nil => exact .words going plain rfl
  | ended words =>
    subst left
    exact .ended (word :: rest)
  | switches goes switch argument after ih => exact .switches goes switch argument (ih left)
  | valued goes switch argument after ih => exact .valued goes switch argument (ih left)
  | word => cases left
  | words => cases left

theorem read_of_spells (orderly : Orderly switches) {mixed : Bool} {words : List String}
    (spells : Spells switches mixed args typed words) (read : Values typed values)
    (unhelped : ∀ t ∈ typed, t.switch.slot ≠ .help) :
    CommandLine.read switches mixed args = .ok (values, words) := by
  have scanned := orderly.scan_of_spells spells
  have unasked : (typed.any fun t => t.switch.slot == .help) = false := by simpa using unhelped
  have made : ({ typed, words } : Scan).values = .ok values := read
  simp only [CommandLine.read, scanned, unasked, made]
  rfl

theorem Scan.readableValues_of_values {s : Scan} (read : s.values = .ok values) :
    s.readableValues = values := by
  unfold Scan.values at read
  unfold readableValues
  generalize s.latest = latest at read ⊢
  induction mapM_eq_ok_iff.1 read with
  | nil => rfl
  | @cons entry value latest values first others ih =>
    obtain ⟨slot, t⟩ := entry
    rw [List.map_cons, ih (mapM_eq_ok_iff.2 others)]
    cases made : t.value with
    | error e =>
      simp only [made] at first
      cases first
    | ok v =>
      simp only [made] at first
      cases first
      simp only [made]

theorem choose_of_read {α : Type} {table : List (String × α)} {entry : α} {rest : List String}
    (typed : args ≠ [])
    (accepted : CommandLine.read switches false args = .ok (values, word :: rest))
    (named : table.lookup word = some entry) :
    choose switches table args = .ok (values, entry, rest) := by
  simp only [choose, List.isEmpty_iff, typed, if_false, accepted, bind, Except.bind, named]
  rfl

section

variable (accepted : read globalSwitches false args = .ok (values, []))
include accepted

theorem read_append (going : word ≠ endOfSwitches) (plain : isSwitch word = false)
    (rest : List String) :
    read globalSwitches false (args ++ word :: rest) = .ok (values, word :: rest) := by
  obtain ⟨typed, spells, read, unhelped⟩ := read_eq_ok orderly_globalSwitches accepted
  exact read_of_spells orderly_globalSwitches (spells.append going plain rest) read unhelped

theorem ofUnfinished_append (going : word ≠ endOfSwitches) (plain : isSwitch word = false)
    (rest : List String) :
    Globals.ofUnfinished (args ++ word :: rest) = .ofValues values := by
  obtain ⟨typed, spells, read, _⟩ := read_eq_ok orderly_globalSwitches accepted
  have scanned := orderly_globalSwitches.scan_of_spells (spells.append going plain rest)
  rw [Globals.ofUnfinished, scanned]
  exact congrArg Globals.ofValues (Scan.readableValues_of_values read)

theorem parse_listBackups : parse (args ++ ["list", "backups"]) =
    .ok ⟨.ofValues values, .listBackups, []⟩ := by
  have chosen : choose globalSwitches entries (args ++ ["list", "backups"]) = _ :=
    choose_of_read (by simp) (read_append accepted (by decide) (by decide) _) rfl
  have inner : CommandLine.read [.help] false ["backups"] = .ok ([], ["backups"]) :=
    read_of_spells orderly_help (.words (by decide) (by decide) rfl) rfl nofun
  have inside : choose [.help] [("nodes", Command.listNodes), ("backups", .listBackups),
      ("storage", .listStorage)] ["backups"] = .ok ([], .listBackups, []) :=
    choose_of_read (by simp) inner rfl
  have own : readCommand (.ofValues values) .listBackups [] =
      .ok ⟨.ofValues values, .listBackups, []⟩ := rfl
  simp only [parse, chosen, bind, Except.bind, inside, own]

end

end BackupConsole.CommandLine
