/-
  SleepSync.Dropout

  What becomes of a slave whose master drops out.

  The history of cliques is meant as a stack: joining a clique pushes its
  master, a dropout pops it and goes back to the one below.  The code pops, but
  it then reads record zero, which is the unit's own, and it moves the end of
  the period to the next tick, which the schedule accepts only around the end of
  the period.  Mastership of its own is taken without a pop, so the record below
  the current one need not be the former master either.

  The master a unit had before its current one is kept beside the state, where
  nothing reads it.
-/

import SleepSync.Election
import SleepSync.SlotTimes
import SleepSync.Lib.Watch

namespace SleepSync

open Lib ScheduleParameters FishingParameters Protocol

-- ============================================================================
-- The clique of one unit
-- ============================================================================

/-- What holds of the clique of a unit in every run. -/
structure CliqueState.Sound (c : Config) (v : CliqueState) : Prop where
  masterID_le : v.masterID ≤ c.id
  firstRecord : v.history.recordMasterID 0 = c.id
  /-- a slave has pushed at least one record -/
  pushed : v.masterID ≠ c.id → 0 < v.history.currentCliqueIndex

section Clique

variable {c : Config} {e : Env} {heard : Option SyncMessage} {v v' : CliqueState}

theorem CliqueHistory.add_index_pos (h : CliqueHistory) (newMasterID : Nat) :
    0 < (h.add newMasterID).currentCliqueIndex := by
  unfold add
  by_cases h_room : h.currentCliqueIndex < recordCount - 1
  · rw [if_pos h_room]
    exact Nat.succ_pos _
  · rw [if_neg h_room]
    have h_full : 5 ≤ h.currentCliqueIndex := Nat.le_of_not_lt h_room
    omega

theorem CliqueState.Sound.withMaster (h : v.Sound c) {otherID : Nat} (h_le : otherID ≤ c.id) :
    (v.withMaster otherID).Sound c := by
  refine ⟨?_, ?_, fun h_slave => ?_⟩
  · rw [v.withMaster_masterID]
    exact h_le
  · rw [v.withMaster_first]
    exact h.firstRecord
  · rw [v.withMaster_masterID] at h_slave
    unfold CliqueState.withMaster
    by_cases h_ne : v.masterID ≠ otherID
    · rw [if_pos h_ne]
      exact v.history.add_index_pos otherID
    · rw [if_neg h_ne]
      have h_eq : v.masterID = otherID := not_not.1 h_ne
      exact h.pushed (h_eq ▸ h_slave)

/-- A unit that is its own master. -/
theorem CliqueState.Sound.own (h : v.Sound c) (s : Schedule) :
    ({ v with masterID := c.id, schedule := s } : CliqueState).Sound c :=
  ⟨Nat.le_refl _, h.firstRecord, fun h_slave => absurd rfl h_slave⟩

theorem CliqueChange.sound (h : CliqueChange c e heard v v') (h_v : v.Sound c) :
    v'.Sound c := by
  cases h with
  | kept => exact h_v
  | rolled => exact ⟨h_v.masterID_le, h_v.firstRecord, h_v.pushed⟩
  | joined _ _ h_le =>
      have h_joined := h_v.withMaster (Nat.le_trans h_le h_v.masterID_le)
      exact ⟨h_joined.masterID_le, h_joined.firstRecord, h_joined.pushed⟩
  | assumed => exact h_v.own v.schedule
  | scattered => exact h_v.own _
  | grabbed h_pop =>
      exact ⟨Nat.le_refl _, (CliqueHistory.pop_first h_pop).trans h_v.firstRecord,
        fun h_slave => absurd rfl h_slave⟩
  | @reverted h s h_pop =>
      have h_first : h.recordMasterID 0 = c.id :=
        (CliqueHistory.pop_first h_pop).trans h_v.firstRecord
      have h_own : (({ v with history := h } : CliqueState).withMaster
          h.currentCliqueRecordMasterID).masterID = c.id :=
        (CliqueState.withMaster_masterID _ _).trans h_first
      exact ⟨Nat.le_of_eq h_own, (CliqueState.withMaster_first _ _).trans h_first,
        fun h_slave => absurd h_own h_slave⟩

/-- In every reachable state of a unit. -/
theorem protocolSystem_sound {p : Protocol} (h : (protocolSystem c).Reachable p) :
    p.clique.Sound c := by
  refine h.invariant (fun p => p.clique.Sound c) ?_ ?_
  · rintro p ⟨initTime, loopTime, rfl⟩
    exact ⟨Nat.le_refl _, rfl, fun h_slave => absurd rfl h_slave⟩
  · intro p l p' h_p _ h_step
    exact (stepProtocol_clique h_step).sound h_p

end Clique

-- ============================================================================
-- Trolling can always be restarted
-- ============================================================================

/-- The session is not longer than the manager lets it become. -/
def Fishing.SessionBounded (f : Fishing) : Prop :=
  f.session.durationInSlots ≤ maxTrollingRealFishSessionDurationSlots

section Restart

variable {c : Config} {e : Env} {f f' : Fishing} {p p' : Protocol} {ev : ProtocolEvent}

/-- A session of at most a hundred slots fits from the first sleeping slot on. -/
theorem Fishing.SessionBounded.restart (h : f.SessionBounded) :
    ∃ f', f.restartTrollingMode = .ok f' := by
  have h_le : f.session.durationInSlots ≤ 100 := h
  have h_range : firstSlotOrdinalToFish ≤ TrollingPolicy.getInitialUpCounter ∧
      TrollingPolicy.getInitialUpCounter + f.session.durationInSlots - 1 ≤
        lastSlotOrdinalShouldFish := by
    rw [TrollingPolicy.getInitialUpCounter, firstSlotOrdinalToFish_eq,
      lastSlotOrdinalShouldFish_eq]
    omega
  exact ⟨_, Fishing.restartTrollingMode_eq_ok.2
    ⟨_, bind_return_eq_ok.2 ⟨_, TrollingPolicy.setSessionForStartSlot_eq_ok.2 ⟨h_range, rfl⟩, rfl⟩,
      rfl⟩⟩

theorem Fishing.manage_sessionBounded {vcc : Bool} (h : f.manage vcc = .ok f')
    (h_f : f.SessionBounded) : f'.SessionBounded := by
  unfold manage at h
  split at h
  · split at h
    · cases h
      exact h_f
    · obtain ⟨f₁, h_incr, rfl⟩ := bind_return_eq_ok.1 h
      unfold incrementFishSessionDuration at h_incr
      dsimp only at h_incr
      split at h_incr
      · cases h_incr
        exact h_f
      · rename_i h_fits
        have h_session := Protocol.restartTrollingMode_session h_incr
        show f₁.session.durationInSlots ≤ _
        rw [h_session]
        exact Nat.le_of_not_lt h_fits
  · cases h
    show 1 ≤ maxTrollingRealFishSessionDurationSlots
    decide

theorem stepProtocol_sessionBounded (h : stepProtocol c p e ev = .ok p')
    (h_p : p.fishing.SessionBounded) : p'.fishing.SessionBounded := by
  by_cases h_ev : ev = .bookkeepingAtPreludeToSyncSlot
  · subst h_ev
    obtain ⟨f, h_f, rfl⟩ := bookkeepingAtPreludeToSyncSlot_eq_ok h
    exact Fishing.manage_sessionBounded h_f h_p
  · unfold Fishing.SessionBounded
    rw [stepProtocol_session h_ev h]
    exact h_p

/-- The fish session is restarted without an assertion in every reachable state. -/
theorem protocolSystem_sessionBounded (h : (protocolSystem c).Reachable p) :
    p.fishing.SessionBounded := by
  refine h.invariant (fun p => p.fishing.SessionBounded) ?_ ?_
  · rintro p ⟨initTime, loopTime, rfl⟩
    show 1 ≤ maxTrollingRealFishSessionDurationSlots
    decide
  · intro p l p' h_p _ h_step
    exact stepProtocol_sessionBounded h_step h_p

end Restart

-- ============================================================================
-- Dropout
-- ============================================================================

/-- The master a unit had before its current one, while it takes a step. -/
def noteFormerMaster (p : Protocol) (_ : Env × ProtocolEvent) (p' : Protocol)
    (formerMasterID : Nat) : Nat :=
  if p'.masterID = p.masterID then formerMasterID else p.masterID

/-- A unit with the master it had before its current one, its own ID at first. -/
def formerMasterSystem (c : Config) : System (Protocol × Nat) (Env × ProtocolEvent) Fault :=
  (protocolSystem c).watched c.id noteFormerMaster

section Dropout

variable {c : Config} {e : Env} {p p' : Protocol}

/-- The history with the current record taken off. -/
def Protocol.popped (p : Protocol) : Protocol :=
  { p with history := { p.history with currentCliqueIndex := p.history.currentCliqueIndex - 1 } }

/-- The record below the current one is the unit's own, so that the unit grabs
    mastership and leaves the schedule. -/
def Protocol.popsToSelf (c : Config) (p : Protocol) : Bool :=
  p.popped.history.isCurrentCliqueRecordSelf c

/-- The next tick is one that the end of the period can be moved to. -/
def Protocol.acceptsEndAtNextTick (p : Protocol) (now : Nat) : Prop :=
  p.schedule.unadjustedEndTimeOfSyncPeriod ≤ now + 1 ∧
    now + 1 ≤ p.schedule.startTimeOfSyncPeriod + 2 * normalSyncPeriodDuration

/-- The end of listening of a slave that has missed enough sync slots. -/
theorem endListen_of_dropout (h_slave : p.isSelfMaster c = false)
    (h_count : p.countSyncSlotsWithoutSyncMsg = Policy.maxMissingSyncsPerDropout) :
    p.endListen c e = { p with countSyncSlotsWithoutSyncMsg := 0 }.revertByCliqueHistory c e := by
  have h_self : p.isSelfSlave c = true := by
    rw [isSelfSlave, h_slave]
    rfl
  have h_drop : p.isDropout = .ok (true, { p with countSyncSlotsWithoutSyncMsg := 0 }) :=
    isDropout_eq_ok.2 ⟨Nat.le_of_eq h_count, (decide_eq_true (Nat.le_of_eq h_count.symm)).symm, rfl⟩
  unfold endListen checkMasterDroppedOut
  rw [if_pos h_self, h_drop]
  rfl

/-- Going back by the history always ends in the unit's own mastership, if it
    ends. -/
theorem revertByCliqueHistory_masterID {p p' : Protocol}
    (h_first : p.history.recordMasterID 0 = c.id) (h : p.revertByCliqueHistory c e = .ok p') :
    p'.masterID = c.id := by
  obtain ⟨hist, h_pop, h_rest⟩ := bind_eq_ok.1 h
  split at h_rest
  · obtain ⟨f, -, rfl⟩ := grabMastership_eq_ok.1 h_rest
    rfl
  · obtain ⟨s, f, -, -, rfl⟩ := revertToFormerMaster_eq_ok.1 h_rest
    exact (CliqueHistory.pop_first h_pop).trans h_first

/-- A slave goes back in one of two ways. -/
theorem revertByCliqueHistory_popped (c : Config) (e : Env)
    (h_pushed : 0 < p.history.currentCliqueIndex) :
    p.revertByCliqueHistory c e =
      if p.popsToSelf c then p.popped.grabMastership c else p.popped.revertToFormerMaster e := by
  have h_pop : p.history.setCurrentCliqueRecordToFormerClique = .ok p.popped.history :=
    require_bind_eq_ok.2 ⟨h_pushed, rfl⟩
  unfold revertByCliqueHistory
  rw [h_pop]
  rfl

theorem grabMastership_ok (c : Config) (h_session : p.fishing.SessionBounded) :
    ∃ p', p.grabMastership c = .ok p' := by
  obtain ⟨f, h_f⟩ := h_session.restart
  exact ⟨_, grabMastership_eq_ok.2 ⟨f, h_f, rfl⟩⟩

/-- The schedule decides whether the former master is reverted to. -/
theorem revertToFormerMaster_ok_iff (h_session : p.fishing.SessionBounded)
    (h_start : p.schedule.startTimeOfSyncPeriod ≤ e.now) :
    (∃ p', p.revertToFormerMaster e = .ok p') ↔ p.acceptsEndAtNextTick e.now := by
  obtain ⟨f, h_f⟩ := h_session.restart
  have h_sub : LongTime.sub (e.now + 1) p.schedule.startTimeOfSyncPeriod =
      e.now + 1 - p.schedule.startTimeOfSyncPeriod :=
    LongTime.sub_of_le (Nat.le_succ_of_le h_start)
  refine ⟨?_, ?_⟩
  · rintro ⟨p', h_revert⟩
    obtain ⟨s, -, h_s, -, -⟩ := revertToFormerMaster_eq_ok.1 h_revert
    obtain ⟨h_back, h_far, -⟩ := Schedule.adjust_eq_ok.1 h_s
    rw [Schedule.adjustedEndTimeFromCliqueHistoryOffset, CliqueHistory.offsetToCurrentClique,
      h_sub] at h_far
    exact ⟨h_back, by omega⟩
  · rintro ⟨h_back, h_far⟩
    have h_adjust : p.schedule.adjustByCliqueHistoryOffset e.now
        CliqueHistory.offsetToCurrentClique =
          .ok { p.schedule with endTimeOfSyncPeriod := e.now + 1 } := by
      refine Schedule.adjust_eq_ok.2 ⟨h_back, ?_, rfl⟩
      rw [Schedule.adjustedEndTimeFromCliqueHistoryOffset, CliqueHistory.offsetToCurrentClique,
        h_sub]
      omega
    exact ⟨_, revertToFormerMaster_eq_ok.2 ⟨_, f, h_adjust, h_f, rfl⟩⟩

/-- When going back by the history fires no assertion. -/
theorem revertByCliqueHistory_ok_iff (c : Config) (h_pushed : 0 < p.history.currentCliqueIndex)
    (h_session : p.fishing.SessionBounded) (h_start : p.schedule.startTimeOfSyncPeriod ≤ e.now) :
    (∃ p', p.revertByCliqueHistory c e = .ok p') ↔
      p.popsToSelf c = true ∨ p.acceptsEndAtNextTick e.now := by
  rw [revertByCliqueHistory_popped c e h_pushed]
  have h_grab : ∃ p', p.popped.grabMastership c = .ok p' := grabMastership_ok c h_session
  have h_revert : (∃ p', p.popped.revertToFormerMaster e = .ok p') ↔
      p.acceptsEndAtNextTick e.now := revertToFormerMaster_ok_iff h_session h_start
  by_cases h_self : p.popsToSelf c = true
  · rw [if_pos h_self]
    exact iff_of_true h_grab (Or.inl h_self)
  · rw [if_neg h_self, h_revert]
    exact (or_iff_right h_self).symm

/-- A dropout returns a slave to its former master exactly where that master is
    the slave itself and either the history or the moment lets the reversion go
    through. -/
theorem dropout_returns_iff {formerMasterID : Nat}
    (h : (formerMasterSystem c).Reachable (p, formerMasterID))
    (h_slave : p.isSelfMaster c = false)
    (h_count : p.countSyncSlotsWithoutSyncMsg = Policy.maxMissingSyncsPerDropout)
    (h_timely : ProtocolEvent.endListen.Timely p e) :
    (∃ p', stepProtocol c p e .endListen = .ok p' ∧ p'.masterID = formerMasterID) ↔
      formerMasterID = c.id ∧ (p.popsToSelf c = true ∨ p.acceptsEndAtNextTick e.now) := by
  have h_reach : (protocolSystem c).Reachable p := h.unwatched
  have h_sound := protocolSystem_sound h_reach
  have h_session := protocolSystem_sessionBounded h_reach
  have h_step : stepProtocol c p e .endListen =
      { p with countSyncSlotsWithoutSyncMsg := 0 }.revertByCliqueHistory c e :=
    endListen_of_dropout h_slave h_count
  rw [h_step]
  have h_ok := revertByCliqueHistory_ok_iff (e := e)
    (p := { p with countSyncSlotsWithoutSyncMsg := 0 }) c
    (h_sound.pushed (of_decide_eq_false h_slave)) h_session h_timely.1
  have h_own : ∀ {p' : Protocol},
      { p with countSyncSlotsWithoutSyncMsg := 0 }.revertByCliqueHistory c e = .ok p' →
        p'.masterID = c.id := by
    intro p' h_p'
    refine revertByCliqueHistory_masterID ?_ h_p'
    exact h_sound.firstRecord
  refine ⟨?_, ?_⟩
  · rintro ⟨p', h_p', h_former⟩
    exact ⟨h_former.symm.trans (h_own h_p'), h_ok.1 ⟨p', h_p'⟩⟩
  · rintro ⟨h_former, h_cond⟩
    obtain ⟨p', h_p'⟩ := h_ok.2 h_cond
    exact ⟨p', h_p', (h_own h_p').trans h_former.symm⟩

end Dropout

-- ============================================================================
-- Masters that fall silent
-- ============================================================================

/-- The unit joins the clique of `masterID` in the sync slot that starts at `start`,
    and stops listening. -/
def joins (start masterID : Nat) : List (Env × ProtocolEvent) :=
  [(arriving (start + 10), .hearInSyncSlot (masterSyncFrom masterID (.ofTicks 79990))),
    (Env.quiet (start + 50), .endListen)]

/-- The silent slots after that one, up to the start of the one in which the master is
    given up: the slot of the message is counted too. -/
def silentPeriods (start : Nat) : List (Env × ProtocolEvent) :=
  ((List.range (Policy.maxMissingSyncsPerDropout - 1)).flatMap fun i =>
    [(Env.quiet (start + 80000 * (i + 1)), .rollPeriodForward),
      (Env.quiet (start + 80000 * (i + 1) + 50), .endListen)]) ++
  [(Env.quiet (start + 80000 * 80), .rollPeriodForward)]

instance (c : Config) (w : Protocol × Nat) (l : Env × ProtocolEvent) :
    Decidable ((formerMasterSystem c).enabled w l) :=
  inferInstanceAs (Decidable (l.2.Timely w.1 l.1))

theorem formerMasterSystem_init :
    (formerMasterSystem unitFive).init ((Protocol.boot unitFive 0 0).preludeToSyncPeriod, 5) :=
  ⟨⟨0, 0, rfl⟩, rfl⟩

/-- The only master a unit had falls silent, and the unit is its own again. -/
theorem dropout_returns_iff_firstMaster :
    ∃ p p', (formerMasterSystem unitFive).Reachable (p, 5) ∧ p.masterID = 3 ∧
      stepProtocol unitFive p (Env.quiet 6400050) .endListen = .ok p' ∧ p'.masterID = 5 := by
  obtain ⟨⟨p, formerMasterID⟩, h, rfl, h_master, h_slave, h_count, h_timely, h_self⟩ :=
    System.Reachable.exists_of_play (M := formerMasterSystem unitFive)
      (P := fun w => w.2 = 5 ∧ w.1.masterID = 3 ∧ w.1.isSelfMaster unitFive = false ∧
        w.1.countSyncSlotsWithoutSyncMsg = Policy.maxMissingSyncsPerDropout ∧
        ProtocolEvent.endListen.Timely w.1 (Env.quiet 6400050) ∧
        w.1.popsToSelf unitFive = true)
      (joins 0 3 ++ silentPeriods 0) formerMasterSystem_init (by decide +kernel)
  obtain ⟨p', h_step, h_former⟩ :=
    (dropout_returns_iff h h_slave h_count h_timely).2 ⟨rfl, Or.inl h_self⟩
  exact ⟨p, p', h, h_master, h_step, h_former⟩

/-- The second of two masters falls silent, and the unit stops on its way back
    to the first. -/
theorem second_master_dropout_stops :
    ∃ p, (formerMasterSystem unitFive).Reachable (p, 3) ∧ p.masterID = 2 ∧
      p.countSyncSlotsWithoutSyncMsg = Policy.maxMissingSyncsPerDropout ∧
      ProtocolEvent.endListen.Timely p (Env.quiet 6480050) ∧
      stepProtocol unitFive p (Env.quiet 6480050) .endListen = .error .endTimeBackward := by
  obtain ⟨⟨p, formerMasterID⟩, h, rfl, h_rest⟩ :=
    System.Reachable.exists_of_play (M := formerMasterSystem unitFive)
      (P := fun w => w.2 = 3 ∧ w.1.masterID = 2 ∧
        w.1.countSyncSlotsWithoutSyncMsg = Policy.maxMissingSyncsPerDropout ∧
        ProtocolEvent.endListen.Timely w.1 (Env.quiet 6480050) ∧
        stepProtocol unitFive w.1 (Env.quiet 6480050) .endListen = .error .endTimeBackward)
      (joins 0 3 ++ (Env.quiet 80000, .rollPeriodForward) :: joins 80000 2 ++
        silentPeriods 80000) formerMasterSystem_init (by decide +kernel)
  exact ⟨p, h, h_rest⟩

end SleepSync
