/-
  SleepSync.CliqueHistories

  The history of cliques is a table of six records with the index of the current
  one, and the code ties that index to nothing: a unit becomes its own master in
  ways that leave the index alone, a full table drops what is pushed but not what
  is popped, and going back pops before it pushes.

  Still the index is always usable.  A push leaves it positive even if it is
  dropped, and only pops lower it, which end in the unit's own mastership.  So the
  index of a slave is positive, and only slaves pop.
-/

import SleepSync.Dropout
import SleepSync.StopsInRuns

namespace SleepSync

open Lib ScheduleParameters

-- ============================================================================
-- The table
-- ============================================================================

/-- The current record is one of the table. -/
structure CliqueHistory.InTable (h : CliqueHistory) : Prop where
  records : h.cliqueRecords.length = recordCount
  index : h.currentCliqueIndex < recordCount

/-- What the code relies on, of the history of unit `c` with master `masterID`. -/
structure CliqueHistory.Usable (c : Config) (masterID : Nat) (h : CliqueHistory) : Prop where
  inTable : h.InTable
  firstRecord : h.recordMasterID 0 = c.id
  /-- a slave can go back -/
  pushed : masterID ≠ c.id → 1 ≤ h.currentCliqueIndex

namespace CliqueHistory

variable {c : Config} {h h' : CliqueHistory}

theorem inTable_init (c : Config) : (CliqueHistory.init c).InTable :=
  ⟨rfl, Nat.zero_lt_succ 5⟩

/-- The index of the last record stays. -/
theorem add_index (h_h : h.InTable) (newMasterID : Nat) :
    (h.add newMasterID).currentCliqueIndex =
      min (h.currentCliqueIndex + 1) (recordCount - 1) := by
  have h_lt := h_h.index
  have h_count : recordCount = 6 := rfl
  unfold add
  by_cases h_room : h.currentCliqueIndex < recordCount - 1
  · rw [if_pos h_room]
    show h.currentCliqueIndex + 1 = _
    omega
  · rw [if_neg h_room]
    omega

theorem add_records (h : CliqueHistory) (newMasterID : Nat) :
    (h.add newMasterID).cliqueRecords.length = h.cliqueRecords.length := by
  unfold add
  split
  · exact List.length_set
  · rfl

theorem InTable.add (h_h : h.InTable) (newMasterID : Nat) : (h.add newMasterID).InTable where
  records := (h.add_records newMasterID).trans h_h.records
  index := by
    rw [add_index h_h newMasterID]
    exact Nat.lt_of_le_of_lt (Nat.min_le_right _ _) (by decide)

theorem InTable.pop (h_h : h.InTable)
    (h_pop : h.setCurrentCliqueRecordToFormerClique = .ok h') : h'.InTable := by
  obtain ⟨-, h_pure⟩ := require_bind_eq_ok.1 h_pop
  cases h_pure
  exact ⟨h_h.records, Nat.lt_of_le_of_lt (Nat.sub_le _ _) h_h.index⟩

end CliqueHistory

-- ============================================================================
-- Runs of events
-- ============================================================================

section Events

variable {c : Config} {e : Env} {heard : Option SyncMessage} {v v' : CliqueState} {p : Protocol}

theorem CliqueState.withMaster_inTable (h : v.history.InTable) (otherID : Nat) :
    (v.withMaster otherID).history.InTable := by
  unfold CliqueState.withMaster
  split
  · exact h.add otherID
  · exact h

/-- A pop that goes back to a former master is followed by a push. -/
theorem CliqueChange.inTable (h : CliqueChange c e heard v v') (h_v : v.history.InTable) :
    v'.history.InTable := by
  cases h with
  | joined => exact v.withMaster_inTable h_v _
  | grabbed h_pop => exact h_v.pop h_pop
  | @reverted h _ h_pop =>
      exact ({ v with history := h } : CliqueState).withMaster_inTable (h_v.pop h_pop) _
  | _ => exact h_v

theorem ne_of_isSelfSlave (h : p.isSelfSlave c = true) : p.masterID ≠ c.id := by
  simpa [Protocol.isSelfSlave, Protocol.isSelfMaster] using h

theorem protocolSystem_usable (h : (protocolSystem c).Reachable p) :
    p.history.Usable c p.masterID := by
  have h_sound := protocolSystem_sound h
  refine ⟨?_, h_sound.firstRecord, h_sound.pushed⟩
  refine h.invariant (fun p => p.clique.history.InTable) ?_ ?_
  · rintro p ⟨initTime, loopTime, rfl⟩
    exact CliqueHistory.inTable_init c
  · intro p l p' h_p _ h_step
    exact (stepProtocol_clique h_step).inTable h_p

/-- Only the end of listening pops, and only that of a slave. -/
theorem stepProtocol_pops {ev : ProtocolEvent}
    (h : stepProtocol c p e ev = .error .noFormerClique) :
    p.masterID ≠ c.id ∧ p.history.currentCliqueIndex = 0 := by
  cases stepProtocol_stops h with
  | adjusts h_flt => cases h_flt
  | noFormerClique h_slave h_index => exact ⟨of_decide_eq_false h_slave, h_index⟩

theorem protocolSystem_pops {ev : ProtocolEvent} (h : (protocolSystem c).Reachable p) :
    stepProtocol c p e ev ≠ .error .noFormerClique := by
  intro h_step
  obtain ⟨h_slave, h_index⟩ := stepProtocol_pops h_step
  have h_pushed := (protocolSystem_usable h).pushed h_slave
  omega

end Events

-- ============================================================================
-- Runs of tasks
-- ============================================================================

section Runs

variable {c : Config} {e : Env} {a : Agent} {flt : Fault}

theorem agentSystem_usable (h : (agentSystem c).Reachable a) :
    a.protocol.history.Usable c a.protocol.masterID := by
  refine agentSystem_protocol (P := fun p => p.history.Usable c p.masterID) h ?_ ?_
  · intro _ _
    exact ⟨CliqueHistory.inTable_init c, rfl, fun h_slave => absurd rfl h_slave⟩
  · exact fun _ => protocolSystem_usable

theorem RunStops.ne_noFormerClique (h : RunStops c e flt) : flt ≠ .noFormerClique :=
  h.ne_of_events (by decide) fun _ _ h_reach => protocolSystem_pops h_reach

/-- In every run from the loader, by events of the protocol in any order or by the
    tasks of the program: the current record is one of the table, the first is the
    unit's own, a slave has one to go back to, and no step stops because there is
    none. -/
theorem clique_history_usable (c : Config) :
    (∀ p, (protocolSystem c).Reachable p →
      p.history.cliqueRecords.length = CliqueHistory.recordCount ∧
      p.history.currentCliqueIndex < CliqueHistory.recordCount ∧
      p.history.recordMasterID 0 = c.id ∧
      (p.isSelfSlave c = true → 1 ≤ p.history.currentCliqueIndex) ∧
      ∀ e ev, stepProtocol c p e ev ≠ .error .noFormerClique) ∧
    (∀ a, (agentSystem c).Reachable a →
      a.protocol.history.cliqueRecords.length = CliqueHistory.recordCount ∧
      a.protocol.history.currentCliqueIndex < CliqueHistory.recordCount ∧
      a.protocol.history.recordMasterID 0 = c.id ∧
      (a.protocol.isSelfSlave c = true → 1 ≤ a.protocol.history.currentCliqueIndex) ∧
      ∀ e ev, (agentSystem c).enabled a (e, ev) →
        (agentSystem c).step a (e, ev) ≠ .error (.protocol .noFormerClique)) := by
  refine ⟨fun p h => ?_, fun a h => ?_⟩
  · obtain ⟨h_table, h_first, h_pushed⟩ := protocolSystem_usable h
    refine ⟨h_table.records, h_table.index, h_first, fun h_slave => ?_, fun e ev => ?_⟩
    · exact h_pushed (ne_of_isSelfSlave h_slave)
    · exact protocolSystem_pops h
  · obtain ⟨h_table, h_first, h_pushed⟩ := agentSystem_usable h
    refine ⟨h_table.records, h_table.index, h_first, fun h_slave => ?_, fun e ev h_en h_stop => ?_⟩
    · exact h_pushed (ne_of_isSelfSlave h_slave)
    · exact (agentSystem_stops h h_en h_stop).ne_noFormerClique rfl

def unitNine : Config := { unitFive with id := 9 }

/-- Seven masters in seven periods, each better than the one before. -/
def sevenMasters : List (Env × ProtocolEvent) :=
  (List.range 7).flatMap fun i =>
    joins (80000 * i) (8 - i) ++ [(Env.quiet (80000 * (i + 1)), .rollPeriodForward)]

/-- They are more than the table holds: its last record is the master of long ago,
    and there still is one to go back to. -/
theorem clique_history_usable_sevenMasters :
    ∃ p, (protocolSystem unitNine).Reachable p ∧ p.masterID = 2 ∧
      p.history.cliqueRecords = [9, 8, 7, 6, 5, 4] ∧ 1 ≤ p.history.currentCliqueIndex ∧
      p.history.currentCliqueIndex < CliqueHistory.recordCount ∧
      ∀ e, stepProtocol unitNine p e .endListen ≠ .error .noFormerClique := by
  obtain ⟨p, h, h_master, h_records, h_slave⟩ :=
    System.Reachable.exists_of_play (M := protocolSystem unitNine)
      (P := fun p => p.masterID = 2 ∧ p.history.cliqueRecords = [9, 8, 7, 6, 5, 4] ∧
        p.isSelfSlave unitNine = true)
      sevenMasters ⟨0, 0, rfl⟩ (by decide +kernel)
  obtain ⟨-, h_index, -, h_pushed, h_steps⟩ := (clique_history_usable unitNine).1 p h
  exact ⟨p, h, h_master, h_records, h_pushed h_slave, h_index, fun e => h_steps e .endListen⟩

end Runs

end SleepSync
