/-
  SleepSync.Slots

  What the slots of a period do to the state apart from messages: the decision
  what a sync slot is used for and the control it may complete, the end of
  listening, the beginning of fishing, the end of fishing, the completion of a
  merge slot, the bookkeeping at the sync point with its mode transitions, and
  a provisioning by the app's controller.
-/

import SleepSync.Handlers

namespace SleepSync

open Lib ScheduleParameters

inductive SyncSlotKind
  | sendWorkSync
  | sendSync
  | sendControlSync
  | listen
  deriving DecidableEq

/-- What a controller writes over the provisioning link. -/
structure ProvisionedValue where
  index : Nat
  value : BitVec 8
  offset : BitVec 8
  deriving DecidableEq

namespace Protocol

variable (c : Config) (e : Env) (p : Protocol)

-- ============================================================================
-- The period and the mode
-- ============================================================================

/-- `SyncAgentImp::preludeToSyncPeriod`, whose assertion is about the radio. -/
def preludeToSyncPeriod : Protocol :=
  { p with schedule := p.schedule.rollPeriodForward, heardWork := false }

/-- `ProvisionManager::shouldProvision` -/
def shouldProvision : Bool × Protocol :=
  if c.softdevicePresent then
    if 5 < p.provisionCounter + 1 then (true, { p with provisionCounter := 0 })
    else (false, { p with provisionCounter := p.provisionCounter + 1 })
  else
    (false, p)

def toSyncOnly : Protocol := { p with mode := .syncOnly }.toNoFishingFromOther

def toFisherFromNoFishing : Protocol := { p with role := .fisher }

/-- One step up or down between the modes. -/
def checkPowerAndTryModeTransitions : Protocol :=
  match p.mode with
  | .maintain => if e.isPowerForSyncMode then { p with mode := .syncOnly } else p
  | .syncOnly =>
      if !e.isPowerForSyncMode then { p with mode := .maintain }
      else if e.isPowerForFishMode then
        { p with mode := .syncAndFishMerge }.toFisherFromNoFishing
      else p
  | .syncAndFishMerge =>
      if !e.isPowerForFishMode then p.toSyncOnly
      else
        let (should, p') := p.shouldProvision c
        if should then { p' with mode := .syncAndProvision } else p'
  | .syncAndProvision =>
      if !e.isPowerForFishMode then p.toSyncOnly
      else { p with mode := .syncAndFishMerge }

/-- `SyncSlot::bookkeepingAtPreludeToSyncSlot` -/
def bookkeepingAtPreludeToSyncSlot : Except Fault Protocol := do
  let p' := (p.callApp .onSyncPoint).checkPowerAndTryModeTransitions c e
  let f ← p'.fishing.manage e.isVccAbove2_7V
  return { p' with fishing := f }

-- ============================================================================
-- Sync slot
-- ============================================================================

/-- `SyncSlotProperty::decideKind`: control before work before sync. -/
def decideKind : SyncSlotKind × Protocol :=
  let needXmitSync := p.shouldTransmitSync c e
  let (control, i) := p.intraClique.shouldSendControlSync e.repeaterCoinToss
  let p' := { p with intraClique := i }
  (if control then .sendControlSync
    else if e.mail.isSome then .sendWorkSync
    else if needXmitSync then .sendSync
    else .listen, p')

def onDone : OnDoneCallback → Except Fault Protocol
  | .onDoneGranularityWithAction => do
      require (p.isSelfMaster c) .notSelfMaster
      return p.trySetGranularity p.intraClique.granularity
  | .onDoneRepeatingUpstream => do
      require (p.isSelfSlave c) .notSelfSlave
      return p
  | .onDoneScatter => do
      require (p.isSelfMaster c) .notSelfMaster
      p.scatterSync c e

/-- `SendRepeater::checkDoneAndEnactControl` -/
def checkDoneAndEnactControl : Except Fault Protocol := do
  let (done, r) ← p.intraClique.repeater.checkDone
  let p' := { p with intraClique := { p.intraClique with repeater := r } }
  match done with
  | none => return p'
  | some callback => p'.onDone c e callback

/-- The part of `SyncSlot::endListen` that is not about the radio. -/
def endListen : Except Fault Protocol :=
  if p.isSelfSlave c then p.checkMasterDroppedOut c e else .ok p

-- ============================================================================
-- Fish and merge slots
-- ============================================================================

def preFishing : Except Fault Protocol := do
  let f ← p.fishing.preFishing
  return { p with fishing := f }

def setStartAndEndTimes : Protocol :=
  { p with fishing := p.fishing.setStartAndEndTimes p.schedule }

def runDeepFishingCallback : DeepFishingCallback → Protocol
  | .endWithNoAction => p
  | .endWithRecoverMaster => p.assumeMastership c

/-- `FishingManager::checkFishingDone`; trolling is never done. -/
def checkFishingDone : Except Fault Protocol :=
  match p.fishing.mode with
  | .trolling => .ok p
  | .deepFishing => do
      let done ← p.fishing.deep.checkDone
      match done with
      | none => return p
      | some callback =>
          let p' := p.runDeepFishingCallback c callback
          return { p' with fishing := p'.fishing.switchToTrolling }

/-- After a merge message has been sent. -/
def mergeSyncSent : Except Fault Protocol := do
  let (done, p') ← p.checkCompletionOfMergerRole
  return if done then p'.stopMerger else p'

-- ============================================================================
-- Provisioning
-- ============================================================================

def calculateElapsedSyncPeriods (offsetTime : BitVec 8) : Nat :=
  10 * offsetTime.toNat * 32768 / 255 / normalSyncPeriodDuration

def provisionWorkTime (periodsElapsed : Nat) : Protocol :=
  let clockAdvance := c.elapsedToAdvanceConverterFunc periodsElapsed
  if p.isSelfMaster c then p.callApp (.workTimeControl clockAdvance)
  else { p with intraClique := p.intraClique.doUpstreamWorkTime clockAdvance }

def provisionWorkCycle (workCycle : Nat) : Protocol :=
  if p.isSelfMaster c then p.callApp (.workCycleControl workCycle)
  else { p with intraClique := p.intraClique.doUpstreamWorkCycle workCycle }

def handleNetGranularityProvisioning (provisionedValue : BitVec 8) : Protocol :=
  let granularity := Granularity.getFromRaw provisionedValue
  if granularity = .invalid then p
  else if p.isSelfMaster c then p.masterTellCliqueGranularityChange granularity
  else { p with intraClique := p.intraClique.doUpstreamCliqueSizeChange granularity }

def handleScatterProvisioning : Protocol :=
  if p.isSelfMaster c then { p with intraClique := p.intraClique.doDownstreamScatter }
  else { p with intraClique := p.intraClique.doUpstreamScatter }

/-- `ProvisionerCallback::succeed` up to the scheduling of the next task: the
    publisher converts the value and calls the subscriber of the index, except
    for the index that means invalid. -/
def provisionSucceed (provision : ProvisionedValue) : Except Fault Protocol :=
  match provision.index with
  | 0 => .ok (p.provisionWorkTime c (calculateElapsedSyncPeriods provision.offset))
  | 1 => .ok (p.handleScatterProvisioning c)
  | 2 => .ok (p.provisionWorkCycle c provision.value.toNat)
  | 3 => .ok (p.handleNetGranularityProvisioning c provision.value)
  | 4 => .ok p
  | _ => .error .unknownProperty

-- ============================================================================
-- Boot
-- ============================================================================

/-- The state after `SyncAgentImp::init` at time `initTime` and
    `SyncAgentImp::preludeToLoop` at time `loopTime`. -/
def boot (initTime loopTime : Nat) : Protocol where
  schedule := (Schedule.init initTime).setEndTimeOfSyncPeriodToNow loopTime
  masterID := c.id
  history := CliqueHistory.init c
  countSyncSlotsWithoutSyncMsg := 0
  isAdvancedStage := false
  fishing := Fishing.initial
  cliqueMerger :=
    { isActive := false
      periodTimeToMergeSlotStart := 0
      superiorMasterID := 0
      inferiorMasterID := 0
      kindOfMerger := .invalid }
  countSentMergeSyncs := 0
  role := .noFishing
  mode := .maintain
  provisionCounter := 0
  intraClique := IntraCliqueManager.initial
  granularity := .large
  xmitPower := .minus40
  heardWork := false
  countMergeSyncHeard := 0
  appCalls := []

-- ============================================================================
-- What these functions can do
-- ============================================================================

/-- The effects of the end of a listening sync slot. -/
inductive ListenEnded (c : Config) (e : Env) (p : Protocol) : Protocol → Prop
  | asMaster (h_master : p.isSelfMaster c = true) : ListenEnded c e p p
  | missed (h_slave : p.isSelfMaster c = false)
      (h_count : p.countSyncSlotsWithoutSyncMsg < Policy.maxMissingSyncsPerDropout) :
      ListenEnded c e p
        { p with countSyncSlotsWithoutSyncMsg := p.countSyncSlotsWithoutSyncMsg + 1 }
  | grabbed {h : CliqueHistory} {f : Fishing} (h_slave : p.isSelfMaster c = false)
      (h_count : p.countSyncSlotsWithoutSyncMsg = Policy.maxMissingSyncsPerDropout)
      (h_pop : p.history.setCurrentCliqueRecordToFormerClique = .ok h)
      (h_self : h.isCurrentCliqueRecordSelf c = true)
      (h_fishing : p.fishing.restartTrollingMode = .ok f) :
      ListenEnded c e p
        { p with
          countSyncSlotsWithoutSyncMsg := 0, history := h, masterID := c.id
          isAdvancedStage := false, fishing := f }
  | reverted {h : CliqueHistory} {s : Schedule} {f : Fishing}
      (h_slave : p.isSelfMaster c = false)
      (h_count : p.countSyncSlotsWithoutSyncMsg = Policy.maxMissingSyncsPerDropout)
      (h_pop : p.history.setCurrentCliqueRecordToFormerClique = .ok h)
      (h_other : h.isCurrentCliqueRecordSelf c = false)
      (h_adjust : p.schedule.adjustByCliqueHistoryOffset e.now
        CliqueHistory.offsetToCurrentClique = .ok s)
      (h_fishing : p.fishing.restartTrollingMode = .ok f) :
      ListenEnded c e p
        { p with
          countSyncSlotsWithoutSyncMsg := 0
          history :=
            historyWith { p with history := h } h.currentCliqueRecordMasterID
          masterID := h.currentCliqueRecordMasterID
          schedule := s, fishing := f }

/-- The effects of the check at the end of a fish slot. -/
inductive FishingChecked (c : Config) (p : Protocol) : Protocol → Prop
  | goesOn (h : p.fishing.mode = .trolling ∨
      p.fishing.deep.countFishings ≤ FishingParameters.countFishingsPerDeepFishing) :
      FishingChecked c p p
  | finished {callback : DeepFishingCallback} (h_mode : p.fishing.mode = .deepFishing)
      (h_count : FishingParameters.countFishingsPerDeepFishing < p.fishing.deep.countFishings)
      (h_callback : p.fishing.deep.fishPolicyDoneCallback = some callback) :
      FishingChecked c p
        { p with
          masterID :=
            match callback with
            | .endWithNoAction => p.masterID
            | .endWithRecoverMaster => c.id
          fishing := p.fishing.switchToTrolling }

section Spec

variable {c : Config} {e : Env} {p p' : Protocol} {flt : Fault}

theorem shouldProvision_eq (c : Config) (p : Protocol) :
    ∃ b n, p.shouldProvision c = (b, { p with provisionCounter := n }) := by
  unfold shouldProvision
  split
  · split <;> exact ⟨_, _, rfl⟩
  · exact ⟨false, p.provisionCounter, rfl⟩

/-- A mode transition is about the mode, the role, an active merger and the count
    of periods until a provisioning. -/
theorem checkPowerAndTryModeTransitions_eq (c : Config) (e : Env) (p : Protocol) :
    ∃ m r k n, p.checkPowerAndTryModeTransitions c e =
      { p with mode := m, role := r, cliqueMerger := k, provisionCounter := n } := by
  have h_only : ∃ m r k n, p.toSyncOnly =
      { p with mode := m, role := r, cliqueMerger := k, provisionCounter := n } := by
    unfold toSyncOnly toNoFishingFromOther
    split
    · exact ⟨_, _, _, _, rfl⟩
    · exact ⟨_, _, p.cliqueMerger, p.provisionCounter, rfl⟩
  have h_same : ∃ m r k n, p =
      { p with mode := m, role := r, cliqueMerger := k, provisionCounter := n } :=
    ⟨p.mode, p.role, p.cliqueMerger, p.provisionCounter, rfl⟩
  unfold checkPowerAndTryModeTransitions
  split
  · split
    · exact ⟨_, p.role, p.cliqueMerger, p.provisionCounter, rfl⟩
    · exact h_same
  · split
    · exact ⟨_, p.role, p.cliqueMerger, p.provisionCounter, rfl⟩
    · split
      · exact ⟨_, _, p.cliqueMerger, p.provisionCounter, rfl⟩
      · exact h_same
  · split
    · exact h_only
    · obtain ⟨b, n, h_prov⟩ := shouldProvision_eq c p
      rw [h_prov]
      cases b
      · exact ⟨p.mode, p.role, p.cliqueMerger, n, rfl⟩
      · exact ⟨_, p.role, p.cliqueMerger, n, rfl⟩
  · split
    · exact h_only
    · exact ⟨_, p.role, p.cliqueMerger, p.provisionCounter, rfl⟩

theorem bookkeepingAtPreludeToSyncSlot_eq_ok
    (h : p.bookkeepingAtPreludeToSyncSlot c e = .ok p') :
    ∃ f, p.fishing.manage e.isVccAbove2_7V = .ok f ∧
      p' = { (p.callApp .onSyncPoint).checkPowerAndTryModeTransitions c e with fishing := f } := by
  obtain ⟨f, h_f, rfl⟩ := bind_return_eq_ok.1 h
  obtain ⟨m, r, k, n, h_eq⟩ :=
    checkPowerAndTryModeTransitions_eq c e (p.callApp .onSyncPoint)
  rw [h_eq] at h_f
  exact ⟨f, h_f, rfl⟩

theorem bookkeepingAtPreludeToSyncSlot_eq_error
    (h : p.bookkeepingAtPreludeToSyncSlot c e = .error flt) : flt = .fishSessionRange :=
  Fishing.manage_eq_error (bind_return_eq_error.1 h)

theorem decideKind_eq (c : Config) (e : Env) (p : Protocol) :
    ∃ i, (p.decideKind c e).2 = { p with intraClique := i } :=
  ⟨_, rfl⟩

/-- A control message is sent by an active repeater only, and is counted before
    it is sent. -/
theorem decideKind_control (h : (p.decideKind c e).1 = .sendControlSync) :
    p.intraClique.repeater.isActive = true ∧
      (p.decideKind c e).2 =
        { p with intraClique :=
          { p.intraClique with repeater :=
            { p.intraClique.repeater with counter := p.intraClique.repeater.counter + 1 } } } := by
  have h_control : (p.intraClique.shouldSendControlSync e.repeaterCoinToss).1 = true := by
    by_contra h_not
    unfold decideKind at h
    dsimp only at h
    rw [if_neg h_not] at h
    split at h
    · cases h
    · split at h <;> cases h
  have h_snd : (p.decideKind c e).2 =
      { p with intraClique := (p.intraClique.shouldSendControlSync e.repeaterCoinToss).2 } := rfl
  rw [h_snd]
  unfold IntraCliqueManager.shouldSendControlSync SendRepeater.shouldSend at h_control ⊢
  by_cases h_active : p.intraClique.isActive = true
  · rw [if_pos h_active] at h_control ⊢
    by_cases h_coin : p.intraClique.repeater.isActive = true ∧ e.repeaterCoinToss = true
    · rw [if_pos h_coin]
      exact ⟨h_active, rfl⟩
    · rw [if_neg h_coin] at h_control
      cases h_control
  · rw [if_neg h_active] at h_control
    cases h_control

theorem onDone_eq_ok {callback : OnDoneCallback} (h : p.onDone c e callback = .ok p') :
    (∃ g x, p' = { p with granularity := g, xmitPower := x }) ∨
      (p.isSelfMaster c = true ∧ p.scatterSync c e = .ok p') := by
  unfold onDone at h
  split at h
  · obtain ⟨-, h⟩ := require_bind_eq_ok.1 h
    cases h
    exact Or.inl (trySetGranularity_eq p _)
  · obtain ⟨-, h⟩ := require_bind_eq_ok.1 h
    cases h
    exact Or.inl ⟨p.granularity, p.xmitPower, rfl⟩
  · exact Or.inr (require_bind_eq_ok.1 h)

theorem onDone_eq_error {callback : OnDoneCallback} (h : p.onDone c e callback = .error flt)
    (h_adj : flt.isAdjust = true) :
    p.schedule.adjustWithRandomAddedTime e.randomOffset = .error flt := by
  unfold onDone at h
  split at h
  · rcases require_bind_eq_error.1 h with ⟨-, h_f⟩ | ⟨-, h_pure⟩
    · exact Fault.elim_isAdjust h_adj rfl h_f
    · cases h_pure
  · rcases require_bind_eq_error.1 h with ⟨-, h_f⟩ | ⟨-, h_pure⟩
    · exact Fault.elim_isAdjust h_adj rfl h_f
    · cases h_pure
  · rcases require_bind_eq_error.1 h with ⟨-, h_f⟩ | ⟨-, h_scatter⟩
    · exact Fault.elim_isAdjust h_adj rfl h_f
    · rcases scatterSync_eq_error h_scatter with h_f | h_s
      · exact Fault.elim_isAdjust h_adj rfl h_f
      · exact h_s

theorem checkDoneAndEnactControl_eq_ok (h : p.checkDoneAndEnactControl c e = .ok p') :
    (∃ i g x, p' = { p with intraClique := i, granularity := g, xmitPower := x }) ∨
      (p.isSelfMaster c = true ∧
        ∃ i f s, p.fishing.restartTrollingMode = .ok f ∧
          p.schedule.adjustWithRandomAddedTime e.randomOffset = .ok s ∧
          p' = { p with
            intraClique := i, masterID := c.id, isAdvancedStage := false
            fishing := f, schedule := s }) := by
  unfold checkDoneAndEnactControl at h
  obtain ⟨⟨done, r⟩, -, h⟩ := bind_eq_ok.1 h
  rcases done with _ | callback
  · cases h
    exact Or.inl ⟨_, p.granularity, p.xmitPower, rfl⟩
  · rcases onDone_eq_ok h with ⟨g, x, rfl⟩ | ⟨h_master, h_scatter⟩
    · exact Or.inl ⟨_, g, x, rfl⟩
    · obtain ⟨f, s, h_f, h_s, rfl⟩ := scatterSync_eq_ok.1 h_scatter
      exact Or.inr ⟨h_master, _, f, s, h_f, h_s, rfl⟩

theorem checkDoneAndEnactControl_eq_error (h : p.checkDoneAndEnactControl c e = .error flt)
    (h_adj : flt.isAdjust = true) :
    p.schedule.adjustWithRandomAddedTime e.randomOffset = .error flt := by
  unfold checkDoneAndEnactControl at h
  rcases bind_eq_error.1 h with h_check | ⟨⟨done, r⟩, -, h⟩
  · unfold SendRepeater.checkDone at h_check
    rcases require_bind_eq_error.1 h_check with ⟨-, h_f⟩ | ⟨-, h_rest⟩
    · exact Fault.elim_isAdjust h_adj rfl h_f
    · split at h_rest <;> cases h_rest
  · rcases done with _ | callback
    · cases h
    · have h_s := onDone_eq_error h h_adj
      exact h_s

theorem endListen_ended (h : p.endListen c e = .ok p') : ListenEnded c e p p' := by
  unfold endListen at h
  split at h
  · rename_i h_slave
    have h_not : p.isSelfMaster c = false := by
      simpa only [isSelfSlave, Bool.not_eq_true'] using h_slave
    unfold checkMasterDroppedOut at h
    obtain ⟨⟨b, p₁⟩, h_drop, h⟩ := bind_eq_ok.1 h
    obtain ⟨h_le, h_b, rfl⟩ := isDropout_eq_ok.1 h_drop
    cases b with
    | false =>
        cases h
        have h_lt := of_decide_eq_false h_b.symm
        exact ListenEnded.missed h_not (Nat.lt_of_not_le h_lt)
    | true =>
        have h_ge := of_decide_eq_true h_b.symm
        have h_count := Nat.le_antisymm h_le h_ge
        have h_revert : revertByCliqueHistory c e
            { p with countSyncSlotsWithoutSyncMsg := 0 } = .ok p' := h
        unfold revertByCliqueHistory at h_revert
        obtain ⟨hist, h_pop, h_rest⟩ := bind_eq_ok.1 h_revert
        split at h_rest
        · rename_i h_self
          obtain ⟨f, h_f, rfl⟩ := grabMastership_eq_ok.1 h_rest
          exact ListenEnded.grabbed h_not h_count h_pop h_self h_f
        · rename_i h_other
          obtain ⟨s, f, h_s, h_f, rfl⟩ := revertToFormerMaster_eq_ok.1 h_rest
          exact ListenEnded.reverted h_not h_count h_pop (eq_false_of_ne_true h_other) h_s h_f
  · rename_i h_master
    cases h
    refine ListenEnded.asMaster ?_
    simpa only [isSelfSlave, Bool.not_eq_true', Bool.not_eq_false] using h_master

theorem endListen_eq_error (h : p.endListen c e = .error flt) (h_adj : flt.isAdjust = true) :
    p.isSelfMaster c = false ∧
      Policy.maxMissingSyncsPerDropout ≤ p.countSyncSlotsWithoutSyncMsg ∧
      p.history.recordMasterID (p.history.currentCliqueIndex - 1) ≠ c.id ∧
      p.schedule.adjustByCliqueHistoryOffset e.now
        CliqueHistory.offsetToCurrentClique = .error flt := by
  unfold endListen at h
  split at h
  · rename_i h_slave
    have h_not : p.isSelfMaster c = false := by
      simpa only [isSelfSlave, Bool.not_eq_true'] using h_slave
    unfold checkMasterDroppedOut at h
    rcases bind_eq_error.1 h with h_drop | ⟨⟨b, p₁⟩, h_drop, h⟩
    · unfold isDropout at h_drop
      rcases require_bind_eq_error.1 h_drop with ⟨-, h_f⟩ | ⟨-, h_pure⟩
      · exact Fault.elim_isAdjust h_adj rfl h_f
      · cases h_pure
    · obtain ⟨-, h_b, rfl⟩ := isDropout_eq_ok.1 h_drop
      cases b with
      | false => cases h
      | true =>
          have h_ge := of_decide_eq_true h_b.symm
          have h_revert : revertByCliqueHistory c e
              { p with countSyncSlotsWithoutSyncMsg := 0 } = .error flt := h
          unfold revertByCliqueHistory at h_revert
          rcases bind_eq_error.1 h_revert with h_pop | ⟨hist, h_pop, h_rest⟩
          · unfold CliqueHistory.setCurrentCliqueRecordToFormerClique at h_pop
            rcases require_bind_eq_error.1 h_pop with ⟨-, h_f⟩ | ⟨-, h_pure⟩
            · exact Fault.elim_isAdjust h_adj rfl h_f
            · cases h_pure
          · split at h_rest
            · exact Fault.elim_isAdjust h_adj rfl (grabMastership_eq_error h_rest)
            · rename_i h_other
              rcases revertToFormerMaster_eq_error h_rest with h_f | h_s
              · exact Fault.elim_isAdjust h_adj rfl h_f
              · refine ⟨h_not, h_ge, ?_, h_s⟩
                obtain ⟨-, h_hist⟩ := require_bind_eq_ok.1 h_pop
                cases h_hist
                intro h_self
                exact h_other (decide_eq_true h_self)
  · cases h

theorem checkFishingDone_checked (h : p.checkFishingDone c = .ok p') :
    FishingChecked c p p' := by
  unfold checkFishingDone at h
  split at h
  case h_1 h_mode =>
    cases h
    exact FishingChecked.goesOn (Or.inl h_mode)
  case h_2 h_mode =>
    obtain ⟨done, h_done, h⟩ := bind_eq_ok.1 h
    unfold DeepFishingPolicy.checkDone at h_done
    split at h_done
    · rename_i h_count
      split at h_done
      · cases h_done
      · rename_i callback h_callback
        cases h_done
        cases h
        have h_finished := FishingChecked.finished (c := c) h_mode h_count h_callback
        cases callback <;> exact h_finished
    · rename_i h_count
      cases h_done
      cases h
      exact FishingChecked.goesOn (Or.inr (Nat.le_of_not_lt h_count))

theorem checkFishingDone_eq_error (h : p.checkFishingDone c = .error flt) :
    flt = .noDoneCallback := by
  unfold checkFishingDone at h
  split at h
  · cases h
  · rcases bind_eq_error.1 h with h_done | ⟨done, -, h⟩
    · unfold DeepFishingPolicy.checkDone at h_done
      split at h_done
      · split at h_done
        · cases h_done
          rfl
        · cases h_done
      · cases h_done
    · rcases done with _ | callback <;> cases h

theorem mergeSyncSent_eq_ok (h : p.mergeSyncSent = .ok p') :
    p.countSentMergeSyncs ≤ Policy.countSyncsPerMerger ∧
      ((p.countSentMergeSyncs < Policy.countSyncsPerMerger ∧
          p' = { p with countSentMergeSyncs := p.countSentMergeSyncs + 1 }) ∨
        (p.countSentMergeSyncs = Policy.countSyncsPerMerger ∧ p' = p.stopMerger)) := by
  obtain ⟨⟨b, p₁⟩, h_check, rfl⟩ := bind_return_eq_ok.1 h
  obtain ⟨h_le, h_b, rfl⟩ := checkCompletionOfMergerRole_eq_ok.1 h_check
  refine ⟨h_le, ?_⟩
  cases b with
  | false => exact Or.inl ⟨Nat.lt_of_not_le (of_decide_eq_false h_b.symm), rfl⟩
  | true => exact Or.inr ⟨Nat.le_antisymm h_le (of_decide_eq_true h_b.symm), rfl⟩

theorem mergeSyncSent_eq_error (h : p.mergeSyncSent = .error flt) :
    flt = .mergePolicyNotRestarted := by
  have h_check := bind_return_eq_error.1 h
  unfold checkCompletionOfMergerRole at h_check
  rcases require_bind_eq_error.1 h_check with ⟨-, h_f⟩ | ⟨-, h_pure⟩
  · exact h_f
  · cases h_pure

theorem provisionSucceed_eq_ok {provision : ProvisionedValue}
    (h : p.provisionSucceed c provision = .ok p') :
    ∃ i a, p' = { p with intraClique := i, appCalls := a } := by
  unfold provisionSucceed at h
  split at h
  · cases h
    unfold provisionWorkTime
    dsimp only
    split <;> exact ⟨_, _, rfl⟩
  · cases h
    unfold handleScatterProvisioning
    split <;> exact ⟨_, _, rfl⟩
  · cases h
    unfold provisionWorkCycle
    split <;> exact ⟨_, _, rfl⟩
  · cases h
    unfold handleNetGranularityProvisioning
    dsimp only
    split
    · exact ⟨p.intraClique, p.appCalls, rfl⟩
    · split <;> exact ⟨_, _, rfl⟩
  · cases h
    exact ⟨p.intraClique, p.appCalls, rfl⟩
  · cases h

theorem provisionSucceed_eq_error {provision : ProvisionedValue}
    (h : p.provisionSucceed c provision = .error flt) : flt = .unknownProperty := by
  unfold provisionSucceed at h
  split at h <;> cases h
  rfl

end Spec

end Protocol

end SleepSync
