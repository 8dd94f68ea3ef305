import BackupConsole.Proofs.Listing.Outcome
import BackupConsole.Proofs.Settings.Defaults

set_option autoImplicit false

namespace BackupConsole

open Contract (Msg)

namespace Completion

theorem ascending_mergeSort {ν : Type} {entries : List (String × ν)}
    (distinct : (entries.map (·.1)).Nodup) :
    (entries.mergeSort fun a b => !decide (b.1 < a.1)).Pairwise fun a b => a.1 < b.1 := by
  have trans (a b c : String × ν) (first : (!decide (b.1 < a.1)) = true)
      (second : (!decide (c.1 < b.1)) = true) : (!decide (c.1 < a.1)) = true := by
    simp only [Bool.not_eq_true', decide_eq_false_iff_not, String.not_lt] at first second ⊢
    exact String.le_trans first second
  have total (a b : String × ν) : (!decide (b.1 < a.1) || !decide (a.1 < b.1)) = true := by
    simp only [Bool.or_eq_true, Bool.not_eq_true', decide_eq_false_iff_not, String.not_lt]
    exact String.le_total a.1 b.1
  have sorted := List.pairwise_mergeSort trans total entries
  have perm := List.mergeSort_perm entries fun a b => !decide (b.1 < a.1)
  -- Equal names would be let through by the order; none are left in a mapping.
  have apart := List.pairwise_map.1 ((perm.map (·.1)).nodup_iff.2 distinct)
  refine (sorted.and apart).imp fun ⟨ascends, differ⟩ => ?_
  simp only [Bool.not_eq_true', decide_eq_false_iff_not, String.not_lt] at ascends
  exact Std.lt_of_le_of_ne ascends differ

theorem outcome_fetchNames_eq_ok_iff {files : Files} {s : Settings} {timeout : Float}
    {c : Coordinator} {names : List (String × String)} :
    (fetchNames files s timeout c).outcome = .ok names ↔
      Channel.Reached files ((Errand.names timeout).settings s) c.readiness ∧
      Stream.InTime timeout c.backups ∧
      ∃ entries, Listing.backups.Reads c (.ok entries) ∧ names = namesOf entries := by
  have read (entries : List BackupEntry) :
      (Channel.withOpen files ((Errand.names timeout).settings s) c.readiness
        (reading timeout c)).outcome = .ok entries ↔
        Channel.Reached files ((Errand.names timeout).settings s) c.readiness ∧
          Stream.InTime timeout c.backups ∧ Listing.backups.Reads c (.ok entries) := by
    rw [Channel.outcome_withOpen_eq_ok_iff, reading, Stream.outcome_within_eq_ok_iff,
      Client.send_eq, Stream.outcome_drain_seen_eq_ok_iff, Stream.outcome_drain_iff]
    rfl
  -- All that can fail is before the names are made of the entries.
  constructor
  · intro fetched
    rw [fetchNames, Run.outcome_bind] at fetched
    obtain ⟨entries, drained, made⟩ := bind_eq_ok fetched
    obtain ⟨reached, timely, whole⟩ := (read entries).1 drained
    cases made
    exact ⟨reached, timely, entries, whole, rfl⟩
  · rintro ⟨reached, timely, entries, whole, rfl⟩
    have drained := (read entries).2 ⟨reached, timely, whole⟩
    rw [fetchNames, Run.outcome_bind]
    exact congrArg (· >>= _) drained

def descriptionSent : Msg .metadataFile → String
  | (_, some (_, _, _, _, _, description, _), _) => description
  | (_, none, _) => ""

def LastSent (messages : List (Msg .metadataFile)) (f : String) (m : Msg .metadataFile) : Prop :=
  ∃ before after, messages = before ++ m :: after ∧ m.1 = f ∧ ∀ later ∈ after, later.1 ≠ f

theorem lastValue?_eq_some_iff {ν : Type} {messages : List (Msg .metadataFile)}
    {value : Msg .metadataFile → ν} {f : String} {v : ν} :
    Mapping.lastValue? (· == ·) (messages.map fun m => (m.1, value m)) f = some v ↔
      ∃ m, LastSent messages f m ∧ v = value m := by
  rw [Mapping.lastValue?_map_eq_some_iff]
  constructor
  · rintro ⟨before, m, after, split, own, rfl, others⟩
    exact ⟨m, ⟨before, after, split, own, others⟩, rfl⟩
  · rintro ⟨m, ⟨before, after, split, own, others⟩, rfl⟩
    exact ⟨before, m, after, split, own, rfl, others⟩

theorem LastSent.unique {messages : List (Msg .metadataFile)} {f : String}
    {m n : Msg .metadataFile} (last : LastSent messages f m) (also : LastSent messages f n) :
    m = n := by
  have kept {m : Msg .metadataFile} (last : LastSent messages f m) :
      Mapping.lastValue? (· == ·) (messages.map fun m => (m.1, m)) f = some m :=
    lastValue?_eq_some_iff.2 ⟨m, last, rfl⟩
  exact Option.some.inj ((kept last).symm.trans (kept also))

def recordSent (m : Msg .metadataFile) : BackupRecord :=
  BackupRecord.ofMessage (m.2.1.getD (Wire.Row.empty Contract.backupMetadataFields))

/-- A mapping and names that are both what the same messages come to. -/
structure Agree (messages : List (Msg .metadataFile)) (mapping : List (String × BackupRecord))
    (names : List (String × String)) : Prop where
  keys : (mapping.map (·.1)).Nodup
  latest : ∀ f record, (f, record) ∈ mapping ↔ ∃ m, LastSent messages f m ∧
    record = recordSent m
  -- One name for every entry of the mapping, and no other.
  same : names.Perm (mapping.map fun entry => (entry.1, entry.2.description))
  described : ∀ f d, (f, d) ∈ names ↔ ∃ m, LastSent messages f m ∧ d = descriptionSent m
  -- By code points, which is how text is ordered.
  ascending : names.Pairwise fun a b => a.1 < b.1

theorem description_recordSent (m : Msg .metadataFile) :
    (recordSent m).description = descriptionSent m := by
  obtain ⟨f, metadata, _⟩ := m
  cases metadata <;> rfl

def latestRecords (messages : List (Msg .metadataFile)) : List (String × BackupRecord) :=
  Mapping.ofPairs (· == ·) (messages.map fun m => (m.1, recordSent m))

variable {messages : List (Msg .metadataFile)}

theorem arrange_eq (messages : List (Msg .metadataFile)) :
    Listing.backups.arrange (messages.map BackupEntry.ofMessage) =
      .ok (latestRecords messages) := by
  have made := Stream.mappingOf_eq BackupEntry.filename
    (fun e => BackupRecord.ofMessage e.metadata) (messages.map BackupEntry.ofMessage)
  rw [List.map_map] at made
  exact made

theorem nodup_latestRecords : ((latestRecords messages).map (·.1)).Nodup := by
  rw [latestRecords, Mapping.keys_ofPairs]
  exact nodup_eraseDups _

theorem mem_latestRecords_iff {f : String} {record : BackupRecord} :
    (f, record) ∈ latestRecords messages ↔
      ∃ m, LastSent messages f m ∧ record = recordSent m := by
  rw [← Mapping.lookup_eq_some_iff_mem nodup_latestRecords, latestRecords, Mapping.lookup_ofPairs,
    lastValue?_eq_some_iff]

theorem namesOf_eq (messages : List (Msg .metadataFile)) :
    namesOf (messages.map BackupEntry.ofMessage) =
      ((latestRecords messages).map fun entry => (entry.1, entry.2.description)).mergeSort
        fun a b => !decide (b.1 < a.1) := by
  -- The listing keeps the last record of a name and completion the last description.
  rw [latestRecords, ← Mapping.ofPairs_map, List.map_map, namesOf, List.map_map]
  rfl

theorem agree_of_messages (messages : List (Msg .metadataFile)) :
    Agree messages (latestRecords messages) (namesOf (messages.map BackupEntry.ofMessage)) := by
  have perm := List.mergeSort_perm
    ((latestRecords messages).map fun entry => (entry.1, entry.2.description))
    fun a b => !decide (b.1 < a.1)
  rw [namesOf_eq]
  refine {
    keys := nodup_latestRecords
    latest := fun f record => mem_latestRecords_iff
    same := perm
    described := ?_
    ascending := ?_ }
  · intro f d
    rw [perm.mem_iff, List.mem_map]
    constructor
    · rintro ⟨⟨g, record⟩, listed, same⟩
      cases same
      obtain ⟨m, last, rfl⟩ := mem_latestRecords_iff.1 listed
      exact ⟨m, last, description_recordSent m⟩
    · rintro ⟨m, last, rfl⟩
      refine ⟨(f, recordSent m), mem_latestRecords_iff.2 ⟨m, last, rfl⟩, ?_⟩
      rw [description_recordSent]
  · apply ascending_mergeSort
    rw [List.map_map]
    exact nodup_latestRecords

structure Sends (c : Coordinator) (messages : List (Msg .metadataFile)) : Prop where
  decoded : List.Forall₂ (fun bytes m => Contract.decode .metadataFile bytes = some m)
    c.backups.items messages
  ended : c.backups.ending = .complete
  closed : c.backups.closeFault? = none

variable {c : Coordinator}

theorem Sends.reads_iff (sends : Sends c messages) {entries : List BackupEntry} :
    Listing.backups.Reads c (.ok entries) ↔ entries = messages.map BackupEntry.ofMessage := by
  have whole : Listing.backups.Reads c (.ok (messages.map BackupEntry.ofMessage)) := by
    refine .whole ?_ sends.ended sends.closed
    refine List.forall₂_map_right_iff.2 (sends.decoded.imp fun bytes m decoded => ?_)
    change (received .metadataFile bytes).map BackupEntry.ofMessage = _
    rw [received, decoded]
    rfl
  constructor
  · intro read
    have drained := Stream.outcome_drain_iff.2 read
    rw [Stream.outcome_drain_iff.2 whole] at drained
    exact (Except.ok.inj drained).symm
  · rintro rfl
    exact whole

theorem Sends.outcome_fetchNames_eq_ok_iff (sends : Sends c messages) {files : Files}
    {s : Settings} {timeout : Float} {names : List (String × String)} :
    (fetchNames files s timeout c).outcome = .ok names ↔
      Channel.Reached files ((Errand.names timeout).settings s) c.readiness ∧
        Stream.InTime timeout c.backups ∧
        names = namesOf (messages.map BackupEntry.ofMessage) := by
  rw [Completion.outcome_fetchNames_eq_ok_iff]
  simp only [sends.reads_iff, exists_eq_left]

theorem Sends.outcome_availableBackups (sends : Sends c messages) (token : String) :
    (Client.availableBackups (credentialInterceptors token) c).outcome =
      .ok (latestRecords messages) := by
  have collected := Listing.outcome_collected .backups token c
  rw [Listing.drained, Stream.outcome_drain_iff.2 (sends.reads_iff.2 rfl)] at collected
  exact collected.trans (arrange_eq messages)

end Completion

namespace Session

variable {world : World} {globals : CommandLine.Globals} {files : Files} {s : Settings}

/-- All that has to hold before the coordinator is asked for names, with the files as the journal
left them. -/
structure Completing (world : World) (globals : CommandLine.Globals) (s : Settings)
    (files : Files) : Prop where
  resolved : globals.settings world [] = .ok s
  logged : ∃ journal, Journal.setUp world.files {} (.ofSettings s) = (files, journal, .ok ())

theorem setUp_default (files : Files) (before : Journal) :
    ∃ journal, Journal.setUp files before {} = (files, journal, .ok ()) :=
  ⟨_, rfl⟩

theorem setUp_of_before {before journal : Journal} {o : Journal.Options} {files others : Files}
    {outcome : Except Failure Unit}
    (logged : Journal.setUp files before o = (others, journal, outcome)) (after : Journal) :
    ∃ journal, Journal.setUp files after o = (others, journal, outcome) := by
  unfold Journal.setUp at logged ⊢
  -- Only the opened file and the threshold decide, and neither is looked up in the old journal.
  generalize Journal.openFile files o.file = opened at logged ⊢
  obtain ⟨opened, e | file⟩ := opened
  · cases logged
    exact ⟨_, rfl⟩
  · simp only at logged ⊢
    generalize Journal.thresholds.lookup (Setting.upperLevel o.level) = threshold at logged ⊢
    cases threshold with
    | none =>
      cases logged
      exact ⟨_, rfl⟩
    | some threshold =>
      cases logged
      exact ⟨_, rfl⟩

theorem complete_of_completing (completing : Completing world globals s files) (c : Coordinator)
    (incomplete : String) : (complete world c globals incomplete).run =
      withoutComplaints (offered files s c incomplete) := by
  obtain ⟨resolved, first, logged⟩ := completing
  obtain ⟨quiet, started⟩ := setUp_default world.files {}
  obtain ⟨journal, logged⟩ := setUp_of_before logged quiet
  simp only [complete, started, resolved, logged]

theorem run_complete (world : World) (c : Coordinator) (globals : CommandLine.Globals) :
    (∃ s files, Completing world globals s files ∧ ∀ incomplete,
      (complete world c globals incomplete).run =
        withoutComplaints (offered files s c incomplete)) ∨
    ∃ e, ∀ incomplete, (complete world c globals incomplete).run = withoutComplaints (.fail e) := by
  obtain ⟨quiet, started⟩ := setUp_default world.files {}
  cases resolved : globals.settings world [] with
  | error e =>
    refine .inr ⟨e, fun incomplete => ?_⟩
    simp only [complete, started, resolved]
  | ok s =>
    match logged : Journal.setUp world.files {} (.ofSettings s) with
    | (files, journal, .error e) =>
      obtain ⟨later, unlogged⟩ := setUp_of_before logged quiet
      refine .inr ⟨e, fun incomplete => ?_⟩
      simp only [complete, started, resolved, unlogged]
    | (files, journal, .ok ()) =>
      have completing : Completing world globals s files := ⟨resolved, journal, logged⟩
      exact .inl ⟨s, files, completing, complete_of_completing completing c⟩

theorem suggestions_eq (p : String) (names : List (String × String)) : suggestions p names =
    names.filter fun entry => p.toList <+: entry.1.toList := by
  refine List.filter_congr fun entry _ => ?_
  rw [Bool.eq_iff_iff, List.isPrefixOf_iff_prefix, decide_eq_true_iff]

theorem suggestions_append (p q : String) (names : List (String × String)) :
    suggestions (p ++ q) (suggestions p names) = suggestions (p ++ q) names := by
  rw [suggestions_eq, suggestions_eq, suggestions_eq, List.filter_filter]
  refine List.filter_congr fun entry _ => ?_
  rw [String.toList_append, Bool.and_eq_left_iff_imp, decide_eq_true_iff, decide_eq_true_iff]
  exact (List.prefix_append p.toList q.toList).trans

theorem offered_append (files : Files) (s : Settings) (c : Coordinator) (p q : String) :
    offered files s c (p ++ q) = suggestions (p ++ q) <$> offered files s c p := by
  unfold offered
  simp only [map_bind, map_pure, suggestions_append]

theorem outcome_withoutComplaints_map
    {f : List (String × String) → List (String × String)} (nothing : f [] = [])
    (r : Run (List (String × String))) :
    (withoutComplaints (f <$> r)).outcome = (withoutComplaints r).outcome.map f := by
  rw [withoutComplaints, withoutComplaints, Run.outcome_recover, Run.outcome_recover, Run.map_eq]
  cases r.outcome with
  | ok names => rfl
  | error e =>
    simp only [Except.map, Option.map_map]
    cases complaint? e with
    | none => rfl
    | some text => exact congrArg Except.ok nothing.symm

theorem complete_append (world : World) (c : Coordinator) (globals : CommandLine.Globals)
    (p q : String) : (complete world c globals (p ++ q)).run.outcome =
      (complete world c globals p).run.outcome.map (suggestions (p ++ q)) := by
  -- What was typed of the name is looked at only after everything that can fail.
  rcases run_complete world c globals with ⟨s, files, _, completed⟩ | ⟨e, failed⟩
  · rw [completed, completed, offered_append]
    -- Where a complaint leaves nothing to suggest, nothing is left of it either.
    exact outcome_withoutComplaints_map rfl _
  · rw [failed, failed]
    exact outcome_withoutComplaints_map rfl (.fail e)

theorem outcome_complete_of_fetched {p : String} {c : Coordinator}
    {names : List (String × String)} (completing : Completing world globals s files)
    (fetched : (Completion.fetchNames files s Completion.defaultTimeout c).outcome = .ok names) :
    (complete world c globals p).run.outcome = .ok (suggestions p names) := by
  have found : (offered files s c p).outcome = .ok (suggestions p names) := by
    rw [offered, Run.outcome_bind, fetched]
    rfl
  rw [complete_of_completing completing, withoutComplaints, Run.recover_of_ok found, found]

end Session

namespace Completion

variable {c : Coordinator} {messages : List (Msg .metadataFile)}

/-- Whatever the coordinator sent, names for the shell are those of the listing, and those that are
offered for a prefix are cut out of them. -/
theorem completion_agrees (sends : Sends c messages) :
    ∃ mapping names, Agree messages mapping names ∧
      (∀ token, (Client.availableBackups (credentialInterceptors token) c).outcome = .ok mapping) ∧
      (∀ files s timeout found, (fetchNames files s timeout c).outcome = .ok found ↔
        Channel.Reached files ((Errand.names timeout).settings s) c.readiness ∧
          Stream.InTime timeout c.backups ∧ found = names) ∧
      (∀ world globals s files p, Session.Completing world globals s files →
        Channel.Reached files ((Errand.completion p).settings s) c.readiness →
          (Session.complete world c globals p).run.outcome =
            .ok (names.filter fun entry => p.toList <+: entry.1.toList)) ∧
      ∀ world globals p q, (Session.complete world c globals (p ++ q)).run.outcome =
        (Session.complete world c globals p).run.outcome.map
          (List.filter fun entry => (p ++ q).toList <+: entry.1.toList) := by
  refine ⟨_, _, agree_of_messages messages, sends.outcome_availableBackups,
    fun files s timeout found => sends.outcome_fetchNames_eq_ok_iff, ?_, ?_⟩
  · intro world globals s files p completing reached
    have timely := Stream.inTime_of_positive (show 0.0 < defaultTimeout by decide) c.backups
    have fetched := sends.outcome_fetchNames_eq_ok_iff.2 ⟨reached, timely, rfl⟩
    rw [Session.outcome_complete_of_fetched completing fetched, Session.suggestions_eq]
  · intro world globals p q
    rw [Session.complete_append]
    congr 1
    exact funext (Session.suggestions_eq (p ++ q))

def sentTwice (description : String) : Msg .metadataFile :=
  ("bä", some (0, 0, 0, 0, 0, description, "", ()), ())

theorem completion_agrees_sent_twice :
    let c : Coordinator := { backups := { items := [
      [10, 3, 98, 195, 164, 18, 5, 58, 3, 111, 108, 100], [10, 1, 98],
      [10, 3, 98, 195, 164, 18, 5, 58, 3, 110, 101, 119]] } }
    let world : World := ⟨.ofHome "/home", []⟩
    Sends c [sentTwice "old", ("b", none, ()), sentTwice "new"] ∧
      Session.Completing world {} Settings.defaults world.files ∧
      ∃ found, (Session.complete world c {} "b").run.outcome = .ok found ∧
        found.Pairwise (fun a b => a.1 < b.1) ∧
        ("b", "") ∈ found ∧ ("bä", "new") ∈ found ∧ ("bä", "old") ∉ found := by
  intro c world
  have sends : Sends c [sentTwice "old", ("b", none, ()), sentTwice "new"] :=
    ⟨.cons rfl (.cons rfl (.cons rfl .nil)), rfl, rfl⟩
  have resolved : CommandLine.Globals.settings ⟨.ofHome "/home", []⟩ {} [] =
      .ok Settings.defaults := rfl
  have completing : Session.Completing world {} Settings.defaults world.files :=
    ⟨resolved, _, rfl⟩
  have reached : Channel.Reached world.files ((Errand.completion "b").settings Settings.defaults)
      c.readiness := ⟨⟨_, rfl⟩, by decide, rfl⟩
  obtain ⟨mapping, names, agree, _, _, completes, _⟩ := completion_agrees sends
  refine ⟨sends, completing, _, completes _ _ _ _ "b" completing reached,
    agree.ascending.filter _, ?_⟩
  have between : LastSent [sentTwice "old", ("b", none, ()), sentTwice "new"] "b"
      ("b", none, ()) := ⟨[_], [_], rfl, rfl, by decide⟩
  have again : LastSent [sentTwice "old", ("b", none, ()), sentTwice "new"] "bä"
      (sentTwice "new") := ⟨[_, _], [], rfl, rfl, nofun⟩
  simp only [List.mem_filter, agree.described]
  refine ⟨⟨⟨_, between, rfl⟩, by decide⟩, ⟨⟨_, again, rfl⟩, by decide⟩, ?_⟩
  rintro ⟨⟨m, last, described⟩, _⟩
  rw [last.unique again] at described
  exact absurd described (by decide)

end Completion

end BackupConsole
