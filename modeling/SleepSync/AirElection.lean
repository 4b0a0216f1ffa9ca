/-
  SleepSync.AirElection

  The election by units that run their tasks and exchange encoded messages.

  The network of `Election` hands messages over as they are built.  Here what a
  unit hears is what it reads from the bytes of a frame, where a type may be read
  as another one, and what it does about it is done by tasks of several events.
  The safety of the election holds all the same: what is read as carrying sync
  was sent so, by a unit that follows a unit.
-/

import SleepSync.AirRuns

namespace SleepSync

open Lib

namespace Agent

variable {c : Config} {e : Env} {a a' : Agent} {ev : AgentEvent} {msg : SyncMessage}

/-- Without a message the master stays, or the unit is its own. -/
theorem AgentStep.masterID_of_unheard (h : AgentStep c e a ev a') (h_clock : a.clock ≤ e.now)
    (h_possible : ev.Possible a e) (h_a : a.PeriodKept c)
    (h_first : a.protocol.history.recordMasterID 0 = c.id)
    (h_unheard : ∀ event, PartOf ev event → event.heard = none) :
    a'.protocol.masterID = a.protocol.masterID ∨ a'.protocol.masterID = c.id := by
  have h_keeps := h.keeps (P := fun p => p.history.recordMasterID 0 = c.id ∧
    (p.masterID = a.protocol.masterID ∨ p.masterID = c.id)) h_clock h_possible h_a ?_
    ⟨h_first, Or.inl rfl⟩
  · exact h_keeps.2
  rintro p event p' ⟨h_own, h_p⟩ - h_part h_step
  have h_change := stepProtocol_clique h_step
  refine ⟨h_change.firstRecord.trans h_own, ?_⟩
  rw [h_unheard event h_part] at h_change
  rcases h_change.masterID h_own with h_same | ⟨msg, h_none, -⟩ | h_self
  · have h_eq : p'.masterID = p.masterID := h_same
    rw [h_eq]
    exact h_p
  · cases h_none
  · exact Or.inr h_self

/-- What a step of the unit does to its master. -/
theorem AgentStep.masterID (h : AgentStep c e a ev a') (h_clock : a.clock ≤ e.now)
    (h_possible : ev.Possible a e) (h_a : a.PeriodKept c)
    (h_first : a.protocol.history.recordMasterID 0 = c.id) :
    a'.protocol.masterID = a.protocol.masterID ∨
      a.protocol.isOtherCliqueBetter a'.protocol.masterID = true ∨
      a'.protocol.masterID = c.id := by
  rcases h.unheard_or_handled with h_unheard | h_same | ⟨handler, msg, -, -, h_step⟩
  · rcases h.masterID_of_unheard h_clock h_possible h_a h_first h_unheard with h_same | h_own
    · exact Or.inl h_same
    · exact Or.inr (Or.inr h_own)
  · exact Or.inl (congrArg Protocol.masterID h_same)
  · exact stepProtocol_masterID h_first h_step

/-- What a unit transmits is from its own clique, if it carries sync. -/
theorem Transmits.masterID (h : a.Transmits c e ev msg)
    (h_kind : a.protocol.cliqueMerger.kindOfMerger.doesCarrySync = false)
    (h_carries : msg.type.doesCarrySync = true) : msg.masterID = a.protocol.masterID := by
  cases h with
  | inSyncSlot h_msg =>
      obtain ⟨t, work, -, h_init⟩ := syncSlotMessage_eq_ok h_msg
      exact (Protocol.initSyncMessage_eq_ok h_init).2.2.1
  | inMergeSlot h_msg =>
      obtain ⟨-, h_type, -⟩ := Protocol.makeMergeMsg_eq_ok h_msg
      rw [h_type, h_kind] at h_carries
      cases h_carries

end Agent

namespace Units

variable {ι : Type} {u : Units ι} {zero : ι → ℤ}

/-- Who is named on the air survives the encoding. -/
theorem NamesUnit.read {m m' : SyncMessage} (h : u.NamesUnit m)
    (h_read : Serializer.unserialize (bufferOf m) = .ok (some m')) : u.NamesUnit m' := by
  intro h_carries
  obtain ⟨h_type, -, -, h_master⟩ := Serializer.read_bufferOf h_read h_carries
  rw [← h_type] at h_carries
  obtain ⟨j, h_j⟩ := h h_carries
  have h_fits : m.masterID < 2 ^ 48 := h_j ▸ u.id_lt j
  exact ⟨j, (h_master h_fits).symm.trans h_j⟩

theorem Follows.booted (i : ι) (initTime loopTime : Nat) :
    u.Follows i (Protocol.boot (u.config i) initTime loopTime) :=
  ⟨⟨i, rfl⟩, Nat.le_refl _, rfl, rfl⟩

/-- The master IDs of units, and where they point to. -/
def PointsTo (u : Units ι) (w : ι → Agent) (master : ι → ι) : Prop :=
  ∀ i, (u.config (master i)).id = (w i).protocol.masterID

theorem PointsTo.isSelfMaster {w : ι → Agent} {master : ι → ι} (h : u.PointsTo w master) {i : ι}
    (h_fixed : master i = i) : (w i).protocol.isSelfMaster (u.config i) = true := by
  refine decide_eq_true ?_
  rw [← h i, h_fixed]

variable [DecidableEq ι] {ok : (ι → Agent) → ι × (Env × AgentEvent) → Prop} {w w' : ι → Agent}

/-- Every unit on the air follows a unit, and what is read from any frame that
    carries sync names one. -/
theorem air_follows (h : ((u.stations zero).air.guarded ok).Reachable w) :
    ∀ i, u.Follows i (w i).protocol ∧ ∀ f ∈ (w i).frames, ∀ msg,
      Serializer.unserialize f.buffer = .ok (some msg) → u.NamesUnit msg := by
  obtain ⟨w₀, h_init, h_run⟩ := h
  refine air_keeps u.Follows
    (fun _ f => ∀ msg, Serializer.unserialize f.buffer = .ok (some msg) → u.NamesUnit msg)
    (System.Reachable.start h_init) h_run ?_ ?_ ?_
  · intro i
    obtain ⟨initTime, loopTime, -, h_boot⟩ := h_init i
    rw [h_boot]
    refine ⟨Follows.booted i initTime loopTime, fun f h_f => ?_⟩
    cases h_f
  · intro i _ e _ p event p' _ _ h_p _ h_heard h_step
    refine h_p.step (l := (e, event)) (fun msg h_msg => ?_) h_step
    obtain ⟨j, f, h_J, h_from⟩ := h_heard msg h_msg
    exact h_J msg h_from.read
  · intro i s e ev msg _ h_p _ _ h_transmits msg' h_read
    have h_names : u.NamesUnit msg := by
      intro h_carries
      obtain ⟨j, h_j⟩ := h_p.masterID_mem
      exact ⟨j, (h_transmits.masterID h_p.kindOfMerger h_carries).trans h_j⟩
    exact h_names.read h_read

theorem PointsTo.descending {master : ι → ι} (h_master : u.PointsTo w master)
    (h : ((u.stations zero).air.guarded ok).Reachable w) :
    Descending (fun i => (u.config i).id) master where
  rank_injective := u.id_injective
  rank_le i := by
    have h_le := (air_follows h i).1.masterID_le
    rw [h_master i]
    exact h_le

theorem air_step_masterID (h : ((u.stations zero).air.guarded ok).Reachable w)
    {l : ι × (Env × AgentEvent)} (h_en : (u.stations zero).air.enabled w l)
    (h_next : (u.stations zero).air.step w l = .ok w') (i : ι) :
    (w' i).protocol.masterID = (w i).protocol.masterID ∨
      (w i).protocol.isOtherCliqueBetter (w' i).protocol.masterID = true ∨
      (w' i).protocol.masterID = (u.config i).id := by
  obtain ⟨h_own, h_frame⟩ := Stations.air_step h_next
  by_cases h_i : i = l.1
  · subst h_i
    have h_alone := air_agent h l.1
    have h_one := agentSystem_oneTask h_alone.guarded_true
    have h_step := Agent.stepAgent_step h_one h_en.1.2 h_own
    exact h_step.masterID h_en.1.1 h_en.1.2 (agentSystem_periodKept h_alone)
      (air_follows h l.1).1.firstRecord
  · rw [h_frame i h_i]
    exact Or.inl rfl

/-- Safety of the election on the air.  Whatever is received, lost, repeated or
    garbled: a master ID is that of a unit and not worse than the unit's own; a
    task or packet leaves it, strictly improves it or resets it; following it has
    no cycle and ends at a unit that is its own master, which the best unit is. -/
theorem air_election_safe (h : (u.stations zero).air.Reachable w) :
    (∀ i, (∃ j, (w i).protocol.masterID = (u.config j).id) ∧
      (w i).protocol.masterID ≤ (u.config i).id) ∧
    (∀ l w', (u.stations zero).air.enabled w l → (u.stations zero).air.step w l = .ok w' → ∀ i,
      (w' i).protocol.masterID = (w i).protocol.masterID ∨
        (w i).protocol.isOtherCliqueBetter (w' i).protocol.masterID = true ∨
        (w' i).protocol.masterID = (u.config i).id) ∧
    (∃ master, u.PointsTo w master ∧
      (∀ i n, master^[n + 1] i = i → master i = i) ∧
      ∀ i, ∃ n, (w (master^[n] i)).protocol.isSelfMaster (u.config (master^[n] i)) = true) ∧
    (∀ i, (∀ j, (u.config i).id ≤ (u.config j).id) →
      (w i).protocol.isSelfMaster (u.config i) = true) := by
  have h_run := h.guarded_true
  have h_follows := fun i => (air_follows h_run i).1
  choose master h_id using fun i => (h_follows i).masterID_mem
  have h_master : u.PointsTo w master := fun i => (h_id i).symm
  have h_desc := h_master.descending h_run
  refine ⟨fun i => ⟨(h_follows i).masterID_mem, (h_follows i).masterID_le⟩, ?_, ?_, ?_⟩
  · intro l w' h_en h_next i
    exact air_step_masterID h_run h_en h_next i
  · refine ⟨master, h_master, fun i n h_cycle => h_desc.fixed_of_iterate_eq h_cycle, ?_⟩
    intro i
    obtain ⟨n, h_fixed⟩ := h_desc.exists_fixed i
    exact ⟨n, h_master.isSelfMaster h_fixed⟩
  · intro i h_best
    exact h_master.isSelfMaster (h_desc.fixed_of_least h_best)

-- ============================================================================
-- Two units on the air
-- ============================================================================

/-- What unit three sends in its first sync slot, 15 ticks after its start. -/
def syncOfThree : SyncMessage :=
  { masterSyncFrom 3 (.ofTicks 79975) with work := Granularity.getRaw .large }

/-- The first sync slot of units five and three, whose clocks agree: three sends in
    it, five hears that. -/
def fiveHearsThree : List (Fin 2 × (Env × AgentEvent)) :=
  [(three, onTime .startSyncPeriodMaintain 0), (five, onTime .startSyncPeriodMaintain 0),
    (three, onTime .theRadioPreludeTaskWSync 79950), (five, onTime .theRadioPreludeTaskWSync 79950),
    (three, ({ Env.quiet 80000 with syncCoinToss := true },
      .timer .startSyncSlotAfterPrelude 80000)),
    (five, onTime .startSyncSlotAfterPrelude 80000),
    (three, onTime .sendSync 80015),
    (five, arrives 80025 syncOfThree)]

theorem air_election_safe_fiveHearsThree :
    ∃ w, (fiveAndThree.stations 0).air.Reachable w ∧ (w 0).protocol.masterID = 3 ∧
      (∃ j, (w 0).protocol.masterID = (fiveAndThree.config j).id) ∧
      (w 1).protocol.isSelfMaster (fiveAndThree.config 1) = true := by
  obtain ⟨w, h, h_master⟩ :=
    System.Reachable.exists_of_play (M := (fiveAndThree.stations 0).air)
      (P := fun w => (w 0).protocol.masterID = 3) fiveHearsThree
      (show (fiveAndThree.stations 0).air.init
        (fun i => Agent.boot (fiveAndThree.config i) 0 0) from
          fun i => ⟨0, 0, Nat.le_refl _, rfl⟩)
      (by decide +kernel)
  obtain ⟨h_units, -, -, h_best⟩ := air_election_safe h
  exact ⟨w, h, h_master, (h_units 0).1, h_best 1 (by decide)⟩

end Units

end SleepSync
