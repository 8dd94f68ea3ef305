import BackupConsole.Proofs.Listing.Timestamps
import BackupConsole.Proofs.Stream.Arrangement
import BackupConsole.Wire.Named

set_option autoImplicit false

namespace BackupConsole

open Contract (Msg)

theorem lex_map_iff {α β : Type} {r : α → α → Prop} {r' : β → β → Prop} {f : α → β}
    (injective : Function.Injective f) (same : ∀ a b, r' (f a) (f b) ↔ r a b) {as bs : List α} :
    List.Lex r' (as.map f) (bs.map f) ↔ List.Lex r as bs := by
  induction as generalizing bs with
  | nil => cases bs <;> simp
  | cons a as ih => cases bs <;> simp [List.cons_lex_cons_iff, injective.eq_iff, same, ih]

def codePoints (s : String) : List Nat := s.toList.map Char.toNat

theorem lt_iff_codePoints {a b : String} :
    a < b ↔ List.Lex (· < ·) (codePoints a) (codePoints b) := by
  have injective : Function.Injective Char.toNat := fun _ _ => Char.toNat_inj.1
  rw [String.lt_iff, codePoints, codePoints, lex_map_iff injective fun _ _ => Iff.rfl]
  exact Iff.rfl

namespace Listing

/-- Each field of the record is that of the message which has its name. Only the identifier of the
agent goes by another name. -/
def Carries (m : Msg .client) (r : AgentRecord) : Prop :=
  ∀ entry ∈ r.toEntries, (if entry.1 = "agent_id" then "id" else entry.1, entry.2) ∈
    Wire.Message.toEntries Contract.MessageType.client.fields m

theorem carries_iff {m : Msg .client} {r : AgentRecord} :
    Carries m r ↔ r = AgentRecord.ofMessage m := by
  obtain ⟨version, id, nodeType, nodeName, clusterId, replicasetName, _, _, lastSeen, _⟩ := m
  obtain ⟨_, _, _, _, _, _, _⟩ := r
  simp [Carries, AgentRecord.toEntries, AgentRecord.ofMessage, Wire.Message.toEntries,
    Wire.Kind.toDatum, Wire.Leaf.toDatum]

structure ByName (messages : List (Msg .client)) (agents : List AgentRecord) : Prop where
  carried : ∃ arrived, List.Forall₂ Carries messages arrived ∧ agents.Perm arrived ∧
    ∀ name, (agents.filter fun r => r.nodeName = name) =
      arrived.filter fun r => r.nodeName = name
  ascending : agents.Pairwise fun a b =>
    ¬ List.Lex (· < ·) (codePoints b.nodeName) (codePoints a.nodeName)

variable {c : Coordinator} {messages : List (Msg .client)}

theorem byName_of_sorted {agents : List AgentRecord}
    (sorted : Stream.StablySorted (fun a b => decide (a < b)) AgentRecord.nodeName
      (messages.map AgentRecord.ofMessage) agents) : ByName messages agents := by
  refine ⟨⟨messages.map AgentRecord.ofMessage, ?_, sorted.perm, sorted.stable⟩, ?_⟩
  · exact List.forall₂_map_right_iff.2 (List.forall₂_same.2 fun m _ => carries_iff.2 rfl)
  · refine sorted.ascending.imp fun ascends => ?_
    rw [← lt_iff_codePoints]
    exact of_decide_eq_false ascends

theorem outcome_connectedAgents (sent : nodes.Sent c messages) (token : String) :
    ∃ agents, (Client.connectedAgents (credentialInterceptors token) c).outcome = .ok agents ∧
      ByName messages agents := by
  obtain ⟨agents, arrange, arranged⟩ := nodes.arrange_arranged (messages.map AgentRecord.ofMessage)
  have drained : (nodes.drained c).outcome = .ok (messages.map AgentRecord.ofMessage) :=
    Stream.outcome_drain_iff.2 sent.reads
  have collected := nodes.outcome_collected token c
  rw [drained] at collected
  cases arranged with
  | nodes sorted => exact ⟨agents, collected.trans arrange, byName_of_sorted sorted⟩

/-- A whole stream is listed in the one order that its keys allow for without items of one key
passing each other. -/
theorem lists_stably_sorted {α β κ : Type} [LinearOrder κ] (key : β → κ) (operation : String)
    (convert : α → Except Failure β) (s : Script α) :
    (∀ items, ∃! sorted, Stream.StablySorted (fun a b => decide (a < b)) key items sorted) ∧
    (∀ sorted, (Stream.toList (fun a b => some (decide (a < b))) (some fun b => pure (key b))
        operation convert s).outcome = .ok sorted ↔
      ∃ items, Stream.Converted convert s.items items ∧ s.ending = .complete ∧
        s.closeFault? = none ∧
        Stream.StablySorted (fun a b => decide (a < b)) key items sorted) ∧
    (∀ (less? : κ → κ → Option Bool) items,
      (Stream.toList less? none operation convert s).outcome = .ok items ↔
        Stream.Converted convert s.items items ∧ s.ending = .complete ∧ s.closeFault? = none) ∧
    ∀ c messages, nodes.Sent c messages → ∀ token, ∃ agents,
      (Client.connectedAgents (credentialInterceptors token) c).outcome = .ok agents ∧
        ByName messages agents := by
  refine ⟨Stream.existsUnique_stablySorted key, fun sorted => Stream.outcome_toList_eq_ok_iff,
    fun less? items => Stream.outcome_toList_unsorted_eq_ok_iff, fun c messages sent => ?_⟩
  exact outcome_connectedAgents sent

/-- One agent without a name, two of the same name, and two whose order would be the other one by
the halves in which wide characters are written elsewhere. -/
theorem lists_stably_sorted_wide :
    let c : Coordinator := { clients := { items := [[34, 4, 240, 159, 152, 128],
      [34, 1, 98, 18, 1, 50], [34, 3, 239, 172, 129], [], [34, 1, 98, 18, 1, 49]] } }
    let agent (nodeName id : String) : Msg .client := ("", id, "", nodeName, "", "", "", 0, 0, ())
    let messages := [agent "😀" "", agent "b" "2", agent "ﬁ" "", agent "" "", agent "b" "1"]
    nodes.Sent c messages ∧ ByName messages [{ nodeName := "" },
      { nodeName := "b", agentId := "2" }, { nodeName := "b", agentId := "1" },
      { nodeName := "ﬁ" }, { nodeName := "😀" }] := by
  intro c agent messages
  have sent : nodes.Sent c messages :=
    ⟨.cons rfl (.cons rfl (.cons rfl (.cons rfl (.cons rfl .nil)))), rfl, rfl⟩
  have found : (Client.connectedAgents (credentialInterceptors "") c).outcome =
      .ok [{ nodeName := "" }, { nodeName := "b", agentId := "2" },
        { nodeName := "b", agentId := "1" }, { nodeName := "ﬁ" }, { nodeName := "😀" }] := rfl
  obtain ⟨_, _, _, listed⟩ := lists_stably_sorted (fun n : Nat => n) "connected agents"
    (fun n : Nat => .ok n) { items := [] }
  obtain ⟨agents, also, byName⟩ := listed c messages sent ""
  rw [found, Except.ok.injEq] at also
  exact ⟨sent, also ▸ byName⟩

end Listing

end BackupConsole
