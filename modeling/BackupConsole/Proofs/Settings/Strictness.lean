import BackupConsole.Proofs.Settings.Refusal
import BackupConsole.Proofs.Yaml.Distinct
import Mathlib.Data.List.Nodup

set_option autoImplicit false

namespace BackupConsole.ConfigFile

open Yaml (Distinct)

def settingOf? (key : Given) : Option Setting :=
  settings.find? fun k => (spellings k).any fun name => key == .text name

def entryOf? (entry : Given × Given) : Option (Setting × Given) :=
  (settingOf? entry.1).bind fun k =>
    if entry.2 = .null then none
    else (k.shape.coerce entry.2).toOption.map fun v => (k, k.shape.give v)

def Has (entries : List (Given × Given)) (name : String) : Prop :=
  ∃ g, (Given.text name, g) ∈ entries

def SpeltOnce (entries : List (Given × Given)) : Prop :=
  ¬ (Has entries "server_address" ∧ Has entries "server_addr")

def Readable (entries : List (Given × Given)) : Prop :=
  ∀ entry ∈ entries, ∀ k, settingOf? entry.1 = some k → entry.2 ≠ .null →
    ∃ v, k.shape.coerce entry.2 = .ok v

structure Admitted (entries : List (Given × Given)) : Prop where
  known : ∀ entry ∈ entries, (settingOf? entry.1).isSome
  once : SpeltOnce entries
  readable : Readable entries

section Spelling

variable {entries : List (Given × Given)} {key : Given} {k j : Setting} {name : String}

theorem spelling_unique (own : name ∈ spellings k) (also : name ∈ spellings j) : k = j := by
  have apart : ∀ k ∈ Setting.all, ∀ j ∈ Setting.all, ∀ name ∈ spellings k, name ∈ spellings j →
      k = j := by decide
  exact apart k (Setting.mem_all k) j (Setting.mem_all j) name own also

theorem settingOf?_eq_some_iff :
    settingOf? key = some k ↔ k ∈ settings ∧ ∃ name ∈ spellings k, key = .text name := by
  constructor
  · intro found
    have spelt := List.find?_some found
    obtain ⟨name, own, same⟩ := List.any_eq_true.1 spelt
    exact ⟨List.mem_of_find?_eq_some found, name, own, beq_iff_eq.1 same⟩
  · rintro ⟨listed, name, own, rfl⟩
    have spells : (spellings k).any fun other => Given.text name == .text other :=
      List.any_eq_true.2 ⟨name, own, beq_self_eq_true _⟩
    cases found : settingOf? (.text name) with
    | none => exact absurd spells (List.find?_eq_none.1 found k listed)
    | some j =>
      have spelt := List.find?_some found
      obtain ⟨other, also, same⟩ := List.any_eq_true.1 spelt
      cases beq_iff_eq.1 same
      rw [spelling_unique own also]

theorem isSome_valueOf?_iff : (valueOf? entries name).isSome ↔ Has entries name := by
  simp only [valueOf?, Option.isSome_map, List.find?_isSome, beq_iff_eq, Has, Prod.exists]
  constructor
  · rintro ⟨_, g, member, rfl⟩
    exact ⟨g, member⟩
  · rintro ⟨g, member⟩
    exact ⟨_, g, member, rfl⟩

theorem mem_of_valueOf? {g : Given} (held : valueOf? entries name = some g) :
    (Given.text name, g) ∈ entries := by
  obtain ⟨⟨key, _⟩, found, rfl⟩ := Option.map_eq_some_iff.1 held
  have same := List.find?_some found
  cases beq_iff_eq.1 same
  exact List.mem_of_find?_eq_some found

theorem valueOf?_eq_some_iff (distinct : Distinct entries) {g : Given} :
    valueOf? entries name = some g ↔ (Given.text name, g) ∈ entries := by
  refine ⟨mem_of_valueOf?, fun member => ?_⟩
  obtain ⟨h, held⟩ := Option.isSome_iff_exists.1 (isSome_valueOf?_iff.2 ⟨g, member⟩)
  rw [held, Yaml.eq_of_distinct distinct member (mem_of_valueOf? held)]

theorem mem_spellings_iff (other : k ≠ .serverAddress) : name ∈ spellings k ↔ name = k.name := by
  cases k with
  | serverAddress => exact absurd rfl other
  | _ => exact List.mem_singleton

theorem SpeltOnce.eq (once : SpeltOnce entries) {other : String} (own : name ∈ spellings k)
    (also : other ∈ spellings k) (has : Has entries name) (has' : Has entries other) :
    name = other := by
  by_cases address : k = .serverAddress
  · subst address
    simp only [spellings, List.mem_cons, List.not_mem_nil, or_false] at own also
    rcases own with rfl | rfl <;> rcases also with rfl | rfl
    · rfl
    · exact absurd ⟨has, has'⟩ once
    · exact absurd ⟨has', has⟩ once
    · rfl
  · rw [(mem_spellings_iff address).1 own, (mem_spellings_iff address).1 also]

theorem of_spelling? (spelt : spelling? entries k = some name) :
    name ∈ spellings k ∧ Has entries name := by
  have held := List.find?_some spelt
  exact ⟨List.mem_of_find?_eq_some spelt, isSome_valueOf?_iff.1 held⟩

theorem spelling?_eq_some_iff (once : SpeltOnce entries) :
    spelling? entries k = some name ↔ name ∈ spellings k ∧ Has entries name := by
  refine ⟨of_spelling?, fun ⟨own, has⟩ => ?_⟩
  cases spelt : spelling? entries k with
  | none => exact absurd (isSome_valueOf?_iff.2 has) (List.find?_eq_none.1 spelt name own)
  | some other =>
    obtain ⟨also, has'⟩ := of_spelling? spelt
    rw [once.eq own also has has']

end Spelling

section Acceptance

variable {entries others : List (Given × Given)} {key g : Given} {k : Setting} {name : String}
  {layer : Layer}

def used (entries : List (Given × Given)) : List String := settings.filterMap (spelling? entries)

theorem layerOf_eq_ok_iff : (∃ layer, layerOf entries = .ok layer) ↔
    (∀ k ∈ settings, ∃ entry, readSetting entries k = .ok entry) ∧
      ∀ entry ∈ entries, strayFault (used entries) entry.1 = none := by
  rw [← Layer.faultless_iff, ← List.filterMap_eq_nil_iff, ← List.append_eq_nil_iff]
  unfold layerOf
  constructor
  · rintro ⟨layer, read⟩
    simp only [List.isEmpty_iff] at read
    split at read
    next faultless => exact faultless
    next => cases read
  · intro faultless
    exact ⟨_, if_pos (List.isEmpty_iff.2 faultless)⟩

theorem strayFault_eq_none_iff {used : List String} :
    strayFault used key = none ↔ ∃ name, key = .text name ∧ name ∈ used := by
  unfold strayFault
  cases key with
  | text name => simp
  | _ => simp

theorem mem_used_iff (once : SpeltOnce entries) :
    name ∈ used entries ↔ Has entries name ∧ (settingOf? (.text name)).isSome := by
  simp only [used, List.mem_filterMap, spelling?_eq_some_iff once, Option.isSome_iff_exists,
    settingOf?_eq_some_iff, Given.text.injEq]
  grind

theorem stray_eq_none_iff (once : SpeltOnce entries) (member : (key, g) ∈ entries) :
    strayFault (used entries) key = none ↔ (settingOf? key).isSome := by
  rw [strayFault_eq_none_iff]
  constructor
  · rintro ⟨name, rfl, used⟩
    exact ((mem_used_iff once).1 used).2
  · intro known
    obtain ⟨k, spells⟩ := Option.isSome_iff_exists.1 known
    obtain ⟨_, name, _, rfl⟩ := settingOf?_eq_some_iff.1 spells
    exact ⟨name, rfl, (mem_used_iff once).2 ⟨⟨g, member⟩, known⟩⟩

theorem speltOnce_of_stray
    (unstray : ∀ entry ∈ entries, strayFault (used entries) entry.1 = none) :
    SpeltOnce entries := by
  rintro ⟨full, short⟩
  obtain ⟨g, member⟩ := short
  obtain ⟨_, ⟨⟩, used⟩ := strayFault_eq_none_iff.1 (unstray _ member)
  obtain ⟨k, _, spelt⟩ := List.mem_filterMap.1 used
  have address : k = .serverAddress :=
    spelling_unique (of_spelling? spelt).1 (List.mem_cons_of_mem _ List.mem_cons_self)
  subst address
  -- The full name comes first, so the short one is a stray beside it.
  have first : spelling? entries .serverAddress = some "server_address" := by
    simp [spelling?, spellings, isSome_valueOf?_iff.2 full]
  have same := Option.some.inj (first.symm.trans spelt)
  exact absurd same (by decide)

theorem readSetting_of_unfit {flaw : Flaw} (spelt : spelling? entries k = some name)
    (held : valueOf? entries name = some g) (nonnull : g ≠ .null)
    (unfit : k.shape.coerce g = .error flaw) :
    readSetting entries k = .error ⟨name, flaw⟩ := by
  unfold readSetting
  cases g with
  | null => exact absurd rfl nonnull
  | _ => simp only [spelt, held, unfit]

theorem readSetting_ok_iff (distinct : Distinct entries) (once : SpeltOnce entries)
    (listed : k ∈ settings) : (∃ entry, readSetting entries k = .ok entry) ↔
      ∀ entry ∈ entries, settingOf? entry.1 = some k → entry.2 ≠ .null →
        ∃ v, k.shape.coerce entry.2 = .ok v := by
  constructor
  · rintro ⟨read, done⟩ ⟨key, g⟩ member spells nonnull
    obtain ⟨_, name, own, rfl⟩ := settingOf?_eq_some_iff.1 spells
    have spelt := (spelling?_eq_some_iff once).2 ⟨own, g, member⟩
    have held := (valueOf?_eq_some_iff distinct).2 member
    cases coerced : k.shape.coerce g with
    | ok v => exact ⟨v, rfl⟩
    | error flaw => cases (readSetting_of_unfit spelt held nonnull coerced).symm.trans done
  · intro readable
    unfold readSetting
    split
    next => exact ⟨none, rfl⟩
    next name spelt =>
      have own := (of_spelling? spelt).1
      split
      next => exact ⟨none, rfl⟩
      next => exact ⟨none, rfl⟩
      next g nonnull held =>
        obtain ⟨v, coerced⟩ := readable (.text name, g) (mem_of_valueOf? held)
          (settingOf?_eq_some_iff.2 ⟨listed, name, own, rfl⟩) nonnull
        exact ⟨_, by rw [coerced]⟩

theorem layerOf_ok_iff (distinct : Distinct entries) :
    (∃ layer, layerOf entries = .ok layer) ↔ Admitted entries := by
  rw [layerOf_eq_ok_iff]
  constructor
  · rintro ⟨reads, unstray⟩
    have once := speltOnce_of_stray unstray
    refine ⟨fun entry member => ?_, once, fun entry member k spells => ?_⟩
    · exact (stray_eq_none_iff once member).1 (unstray entry member)
    · have listed := (settingOf?_eq_some_iff.1 spells).1
      exact (readSetting_ok_iff distinct once listed).1 (reads k listed) entry member spells
  · rintro ⟨known, once, readable⟩
    exact ⟨fun k listed => (readSetting_ok_iff distinct once listed).2 fun entry member =>
      readable entry member k,
      fun entry member => (stray_eq_none_iff once member).2 (known entry member)⟩

theorem entryOf?_eq_some_iff {w : Given} : entryOf? (key, g) = some (k, w) ↔
    settingOf? key = some k ∧ g ≠ .null ∧ ∃ v, k.shape.coerce g = .ok v ∧ k.shape.give v = w := by
  unfold entryOf?
  constructor
  · intro gives
    obtain ⟨j, spells, gives⟩ := Option.bind_eq_some_iff.1 gives
    split at gives
    next => cases gives
    next nonnull =>
      obtain ⟨v, coerced, same⟩ := Option.map_eq_some_iff.1 gives
      cases same
      exact ⟨spells, nonnull, v, toOption_eq_some_iff.1 coerced, rfl⟩
  · rintro ⟨spells, nonnull, v, coerced, rfl⟩
    simp [spells, nonnull, coerced, Except.toOption]

theorem given?_eq_some_iff {w : Given} : given? entries k = some w ↔
    k ∈ settings ∧ ∃ name g, spelling? entries k = some name ∧ valueOf? entries name = some g ∧
      g ≠ .null ∧ ∃ v, k.shape.coerce g = .ok v ∧ k.shape.give v = w := by
  unfold given?
  constructor
  · intro gives
    split at gives
    next listed =>
      refine ⟨listed, ?_⟩
      split at gives
      next => cases gives
      next => cases gives
      next g nonnull held =>
        obtain ⟨name, spelt, held⟩ := Option.bind_eq_some_iff.1 held
        obtain ⟨v, coerced, same⟩ := Option.map_eq_some_iff.1 gives
        exact ⟨name, g, spelt, held, nonnull, v, toOption_eq_some_iff.1 coerced, same⟩
    next => cases gives
  · rintro ⟨listed, name, g, spelt, held, nonnull, v, coerced, rfl⟩
    rw [if_pos listed, spelt, Option.bind_some, held]
    cases g with
    | null => exact absurd rfl nonnull
    | _ => simp only [coerced, Except.toOption, Option.map_some]

theorem given?_iff_entryOf? (distinct : Distinct entries) (once : SpeltOnce entries) {w : Given} :
    given? entries k = some w ↔ ∃ entry ∈ entries, entryOf? entry = some (k, w) := by
  rw [given?_eq_some_iff]
  constructor
  · rintro ⟨listed, name, g, spelt, held, read⟩
    have spells := settingOf?_eq_some_iff.2 ⟨listed, name, (of_spelling? spelt).1, rfl⟩
    exact ⟨_, mem_of_valueOf? held, entryOf?_eq_some_iff.2 ⟨spells, read⟩⟩
  · rintro ⟨⟨key, g⟩, member, gives⟩
    obtain ⟨spells, read⟩ := entryOf?_eq_some_iff.1 gives
    obtain ⟨listed, name, own, rfl⟩ := settingOf?_eq_some_iff.1 spells
    exact ⟨listed, name, g, (spelling?_eq_some_iff once).2 ⟨own, g, member⟩,
      (valueOf?_eq_some_iff distinct).2 member, read⟩

theorem nodup_entries (distinct : Distinct entries) (once : SpeltOnce entries) :
    (entries.filterMap entryOf?).Nodup := by
  refine List.pairwise_filterMap.2 (distinct.imp_of_mem ?_)
  rintro ⟨key, g⟩ ⟨key', h⟩ member member' differ ⟨k, w⟩ gives _ gives' rfl
  obtain ⟨_, name, own, rfl⟩ := settingOf?_eq_some_iff.1 (entryOf?_eq_some_iff.1 gives).1
  obtain ⟨_, other, also, rfl⟩ := settingOf?_eq_some_iff.1 (entryOf?_eq_some_iff.1 gives').1
  cases once.eq own also ⟨g, member⟩ ⟨h, member'⟩
  simp [Given.sameKey] at differ

theorem perm_of_layerOf (distinct : Distinct entries) (once : SpeltOnce entries)
    (read : layerOf entries = .ok layer) : layer.Perm (entries.filterMap entryOf?) := by
  have unique := Layer.unique_ofValues nodup_settings (given? entries)
  rw [layerOf_eq_ok read]
  refine (List.perm_ext_iff_of_nodup (List.Nodup.of_map _ unique)
    (nodup_entries distinct once)).2 ?_
  rintro ⟨k, w⟩
  rw [List.mem_filterMap, ← given?_iff_entryOf? distinct once]
  simp only [Layer.ofValues, List.mem_filterMap, Option.map_eq_some_iff, Prod.mk.injEq]
  constructor
  · rintro ⟨_, _, _, gives, rfl, rfl⟩
    exact gives
  · intro gives
    exact ⟨k, (given?_eq_some_iff.1 gives).1, w, gives, rfl, rfl⟩

theorem layerOf_perm (distinct : Distinct entries) (distinct' : Distinct others)
    (perm : others.Perm entries) (read : layerOf entries = .ok layer) :
    layerOf others = .ok layer := by
  have value : valueOf? others = valueOf? entries := by
    funext name
    refine Option.ext fun g => ?_
    rw [valueOf?_eq_some_iff distinct, valueOf?_eq_some_iff distinct', perm.mem_iff]
  have spelling : spelling? others = spelling? entries := by
    funext k
    rw [spelling?, spelling?, value]
  have accepted : ∃ layer, layerOf others = .ok layer := by
    obtain ⟨reads, unstray⟩ := layerOf_eq_ok_iff.1 ⟨layer, read⟩
    refine layerOf_eq_ok_iff.2 ⟨fun k listed => ?_, fun entry member => ?_⟩
    · rw [readSetting, spelling, value]
      exact reads k listed
    · rw [used, spelling]
      exact unstray entry (perm.mem_iff.1 member)
  obtain ⟨layer', read'⟩ := accepted
  have given : given? others = given? entries := by
    funext k
    rw [given?, spelling, value, given?]
  rw [read', layerOf_eq_ok read', layerOf_eq_ok read, given]

end Acceptance

section Document

variable {files : Files} {path : Path} {entries : List (Given × Given)} {layer : Layer}

def Holds (files : Files) (path : Path) (document : Yaml.Document) : Prop :=
  ∃ bytes text, files.read path = .ok bytes ∧ Given.utf8? bytes = some text ∧
    Yaml.documentOf files.reader (Text.unifyLineEnds text.toList) = .ok document

/-- What comes of a file: its document is accepted or refused as a whole. -/
structure Strict (files : Files) (path : Path) : Prop where
  empty : Holds files path .empty → load files path = .ok []
  other : ∀ v, Holds files path (.other v) →
    ∃ cause, load files path = .error (.refused cause) ∧ cause.category = .config
  accepted : ∀ entries, Holds files path (.mapping entries) → Admitted entries →
    ∃ layer, load files path = .ok layer
  refused : ∀ entries, Holds files path (.mapping entries) → ¬ Admitted entries →
    ∃ cause, load files path = .error (.refused cause) ∧ cause.category = .config
  -- One value for each key that gives one, under the name of the setting, and no other value.
  exact : ∀ entries layer, Holds files path (.mapping entries) → load files path = .ok layer →
    layer.Unique ∧ layer.Perm (entries.filterMap entryOf?)
  complete : ∀ entries layer, Holds files path (.mapping entries) →
    load files path = .ok layer → ∀ entry ∈ entries, (settingOf? entry.1).isSome →
      entry.2 ≠ .null → (entryOf? entry).isSome
  unordered : ∀ entries layer, Holds files path (.mapping entries) →
    load files path = .ok layer → ∀ files' path' others, Holds files' path' (.mapping others) →
      others.Perm entries → load files' path' = .ok layer
  unapplied : ∀ e, load files path = .error e → ∀ i : Inputs, i.world.files = files →
    find files i.named i.fallback = .ok (some path) →
      i.resolve = .error e ∨ ∃ faults, i.resolve = .error (.refused (.invalidEnvironment faults))

theorem load_of_holds {document : Yaml.Document} (holds : Holds files path document) :
    load files path = readDocument path.toText document := by
  obtain ⟨bytes, text, found, decoded, made⟩ := holds
  simp only [load_of_read found, documentIn, decoded, made]
  rfl

theorem Holds.distinct (holds : Holds files path (.mapping entries)) : Distinct entries := by
  obtain ⟨_, _, _, _, made⟩ := holds
  exact Yaml.distinct_of_documentOf made

theorem load_eq_ok_iff_layerOf (holds : Holds files path (.mapping entries)) :
    load files path = .ok layer ↔ layerOf entries = .ok layer := by
  rw [load_of_holds holds, readDocument]
  cases layerOf entries <;> simp [Except.mapError]

theorem load_ok_iff_admitted (holds : Holds files path (.mapping entries)) :
    (∃ layer, load files path = .ok layer) ↔ Admitted entries := by
  simp only [load_eq_ok_iff_layerOf holds]
  exact layerOf_ok_iff holds.distinct

theorem isSome_entryOf? {entry : Given × Given} (readable : Readable entries)
    (member : entry ∈ entries) (known : (settingOf? entry.1).isSome) (nonnull : entry.2 ≠ .null) :
    (entryOf? entry).isSome := by
  obtain ⟨k, spells⟩ := Option.isSome_iff_exists.1 known
  obtain ⟨v, coerced⟩ := readable entry member k spells nonnull
  exact Option.isSome_iff_exists.2 ⟨_, entryOf?_eq_some_iff.2 ⟨spells, nonnull, v, coerced, rfl⟩⟩

theorem resolve_of_unloaded {e : Failure} (failed : load files path = .error e) {i : Inputs}
    (same : i.world.files = files) (found : find files i.named i.fallback = .ok (some path)) :
    i.resolve = .error e ∨
      ∃ faults, i.resolve = .error (.refused (.invalidEnvironment faults)) := by
  subst same
  cases loaded : Environment.load i.world.environment with
  | error faults => exact .inr ⟨faults, Inputs.resolve_of_unread loaded⟩
  | ok overrides =>
    rw [Inputs.resolve_of_loaded loaded, found]
    simp only [Except.bind, readFound, failed, true_or]

/-- A file gives the values under its keys and nothing else, or it is refused as a whole: for a key
that spells no setting, for an address under both of its spellings, or for a value that does not
fit. -/
theorem reads_strictly (files : Files) (path : Path) : Strict files path where
  empty holds := load_of_holds holds
  other v holds := ⟨_, load_of_holds holds, rfl⟩
  accepted entries holds admitted := (load_ok_iff_admitted holds).2 admitted
  refused entries holds failed := by
    cases read : layerOf entries with
    | ok layer =>
      have loaded := (load_eq_ok_iff_layerOf holds).2 read
      exact absurd ((load_ok_iff_admitted holds).1 ⟨layer, loaded⟩) failed
    | error faults =>
      refine ⟨.invalidConfig path.toText faults, ?_, rfl⟩
      rw [load_of_holds holds, readDocument, read, Except.mapError]
  exact entries layer holds loaded := by
    have read := (load_eq_ok_iff_layerOf holds).1 loaded
    have admitted := (load_ok_iff_admitted holds).1 ⟨layer, loaded⟩
    refine ⟨?_, perm_of_layerOf holds.distinct admitted.once read⟩
    rw [layerOf_eq_ok read]
    exact Layer.unique_ofValues nodup_settings _
  complete entries layer holds loaded entry member := by
    have admitted := (load_ok_iff_admitted holds).1 ⟨layer, loaded⟩
    exact isSome_entryOf? admitted.readable member
  unordered entries layer holds loaded files' path' others holds' perm := by
    rw [load_eq_ok_iff_layerOf holds']
    exact layerOf_perm holds.distinct holds'.distinct perm ((load_eq_ok_iff_layerOf holds).1 loaded)
  unapplied e failed i same found := resolve_of_unloaded failed same found

end Document

end BackupConsole.ConfigFile
