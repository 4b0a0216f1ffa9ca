/-
  SleepSync.Handlers

  What a valid message does to the state, by the slot it is heard in: the
  handlers common to both slots, those of the sync slot with the filter for
  messages that keep sync, and those of the fish slot with the catch in either
  fishing mode.

  A handler returns whether to keep listening.
-/

import SleepSync.Sender

namespace SleepSync

open Lib

inductive HandlingResult
  | keepListening
  | stopListeningHeardMasterSync
  | stopListeningHeardWorkSync
  | stopListeningHeardMergeSync
  deriving DecidableEq

namespace Protocol

variable (c : Config) (e : Env) (p : Protocol)

def callApp (call : AppCall) : Protocol := { p with appCalls := call :: p.appCalls }

-- ============================================================================
-- Control of the clique
-- ============================================================================

def trySetGranularity (granularity : NetGranularity) : Protocol :=
  if granularity = .invalid then
    p
  else
    { p with
      granularity := granularity
      xmitPower := Granularity.xmitPowerForGranularity granularity }

def cancelAnyUpstreamingInProgress : Protocol :=
  if !p.isSelfMaster c ∧ p.intraClique.isActive then
    { p with intraClique := p.intraClique.abort }
  else
    p

def masterTellCliqueGranularityChange (granularity : NetGranularity) : Protocol :=
  { p with intraClique := p.intraClique.doDownstreamCliqueSizeChange granularity }

def masterTellCliqueToScatter : Protocol :=
  { p with intraClique := p.intraClique.doDownstreamScatter }

/-- `NetworkTopology::handleNetGranularityMessage` -/
def handleNetGranularityMessage (msg : SyncMessage) : Protocol :=
  let granularity := Granularity.getFromRaw msg.work
  if granularity = .invalid then
    p
  else if p.isMsgFromMyClique msg.masterID then
    if p.isSelfMaster c then p.masterTellCliqueGranularityChange granularity
    else p.cancelAnyUpstreamingInProgress c
  else
    p

/-- `NetworkTopology::handleScatterMessage` -/
def handleScatterMessage (msg : SyncMessage) : Except Fault Protocol :=
  if p.isMsgFromMyClique msg.masterID then
    if p.isSelfMaster c then .ok p.masterTellCliqueToScatter
    else (p.cancelAnyUpstreamingInProgress c).scatterSync c e
  else
    .ok p

def isMsgForSelfAsMaster (msg : SyncMessage) : Bool :=
  p.isMsgFromMyClique msg.masterID ∧ p.isSelfMaster c

/-- `WorkControlProxy::handleWorkTimeMessage` -/
def handleWorkTimeMessage (msg : SyncMessage) : Protocol :=
  if p.isMsgForSelfAsMaster c msg then p.callApp (.workTimeControl msg.work.toNat) else p

/-- `WorkControlProxy::handleWorkCycleMessage` -/
def handleWorkCycleMessage (msg : SyncMessage) : Protocol :=
  if p.isMsgForSelfAsMaster c msg then p.callApp (.workCycleControl msg.work.toNat) else p

-- ============================================================================
-- Sync slot: the filter
-- ============================================================================

/-- The clique has been updated by the message when this looks whether the
    message is from the clique. -/
def handleSuperiorOrSameSyncWhileMerging (msg : SyncMessage) : Protocol :=
  if p.isMsgFromMyClique msg.masterID then p else p.stopMerger

def handleSuperiorOrSameSyncMsg (msg : SyncMessage) : Except Fault Protocol := do
  let p' ← p.updateBySyncMessage e msg
  if p'.role = .merger then return p'.handleSuperiorOrSameSyncWhileMerging msg
  else return p'

/-- `SyncBehaviour::filterSyncMsg`: only a message of the own clique or of a
    better one keeps sync. -/
def filterSyncMsg (msg : SyncMessage) : Except Fault (Bool × Protocol) := do
  require msg.type.doesCarrySync .doesNotCarrySync
  if p.isMsgFromMyClique msg.masterID then
    let p' ← p.handleSuperiorOrSameSyncMsg e msg
    return (true, p'.heardSync)
  else if p.isOtherCliqueBetter msg.masterID then
    let p' ← p.handleSuperiorOrSameSyncMsg e msg
    return (true, p'.heardSync)
  else
    return (false, p)

-- ============================================================================
-- Sync slot: by type of message
-- ============================================================================

def handleWorkAspectOfWorkCarryingMsg (msg : SyncMessage) : Protocol :=
  if p.isMsgFromMyClique msg.masterID then
    { p with heardWork := true }.callApp (.onWorkMsg msg.work)
  else
    p

def handleSyncAspectOfSyncCarryingMsg (msg : SyncMessage) :
    Except Fault (HandlingResult × Protocol) := do
  let (heardSync, p') ← p.filterSyncMsg e msg
  return (if heardSync then .stopListeningHeardMasterSync else .keepListening, p')

def handleGranularityAspectOfMasterSync (msg : SyncMessage) : Protocol :=
  let newGranularity := Granularity.getFromRaw msg.work
  if newGranularity ≠ p.granularity then p.trySetGranularity newGranularity else p

/-- A delta from the own sync point to a sync point of the other clique. -/
def getFishingDeltaFromMergeMsg (msg : SyncMessage) : Nat :=
  let timeOfSyncPtOfMerge := Schedule.adjustedEventTimeFromMsg msg e.timeOfArrival
  c.tm.clampedTimeDifferenceFromNow e.now timeOfSyncPtOfMerge +
    p.schedule.deltaPastSyncPointToNow c.tm e.now

/-- The three handlers of merge messages, which differ in what deep fishing ends
    with. -/
def handleMergeClassMessage (callback : DeepFishingCallback) (msg : SyncMessage) :
    HandlingResult × Protocol :=
  (.keepListening,
    { p with
      fishing := p.fishing.switchToDeepFishing (p.getFishingDeltaFromMergeMsg c e msg) callback
      countMergeSyncHeard := p.countMergeSyncHeard + 1 })

def handleEnticingInferiorMessage (msg : SyncMessage) : HandlingResult × Protocol :=
  p.handleMergeClassMessage c e .endWithNoAction msg

def handleMasterMergedAwayMessage (msg : SyncMessage) : HandlingResult × Protocol :=
  p.handleMergeClassMessage c e .endWithRecoverMaster msg

def handleSlaveMergedAwayMessage (msg : SyncMessage) : HandlingResult × Protocol :=
  p.handleMergeClassMessage c e .endWithNoAction msg

namespace SyncSlot

def handleMasterSyncMessage (msg : SyncMessage) : Except Fault (HandlingResult × Protocol) :=
  (p.handleGranularityAspectOfMasterSync msg).handleSyncAspectOfSyncCarryingMsg e msg

def handleWorkSyncMessage (msg : SyncMessage) : Except Fault (HandlingResult × Protocol) :=
  (p.handleWorkAspectOfWorkCarryingMsg msg).handleSyncAspectOfSyncCarryingMsg e msg

/-- Whoever's mastership it is. -/
def handleAbandonMastershipMessage : HandlingResult × Protocol :=
  (.keepListening, p.assumeMastership c)

/-- `SyncSlotMessageHandler::handle` -/
def handle (msg : SyncMessage) : Except Fault (HandlingResult × Protocol) :=
  match msg.type with
  | .masterSync => handleMasterSyncMessage e p msg
  | .mergeOther => .ok (p.handleEnticingInferiorMessage c e msg)
  | .mergeMyMasterDepart => .ok (p.handleMasterMergedAwayMessage c e msg)
  | .mergeMySlaveDepart => .ok (p.handleSlaveMergedAwayMessage c e msg)
  | .workSync => handleWorkSyncMessage e p msg
  | .abandonMastership => .ok (handleAbandonMastershipMessage c p)
  | .info => .ok (.keepListening, p)
  | .controlNetGranularity => .ok (.keepListening, p.handleNetGranularityMessage c msg)
  | .controlScatterClique => do
      let p' ← p.handleScatterMessage c e msg
      return (.keepListening, p')
  | .controlWorkTime => .ok (.keepListening, p.handleWorkTimeMessage c msg)
  | .controlWorkCycle => .ok (.keepListening, p.handleWorkCycleMessage c msg)
  | .invalid => .ok (.keepListening, p)

end SyncSlot

-- ============================================================================
-- Fish slot
-- ============================================================================

def handleCatchFromDeepFishing (msg : SyncMessage) :
    Except Fault (HandlingResult × Protocol) := do
  require msg.type.doesCarrySync .doesNotCarrySync
  if p.isOtherCliqueBetter msg.masterID then
    let p' ← p.updateBySyncMessage e msg
    return (.stopListeningHeardMasterSync,
      { p' with fishing := p'.fishing.switchToTrolling })
  else
    return (.keepListening, p)

def doFishedSyncMsg (msg : SyncMessage) : Except Fault (HandlingResult × Protocol) :=
  match p.fishing.mode with
  | .trolling => do
      let p' ← p.toMergerFromFisher c e msg
      return (.stopListeningHeardMasterSync, p')
  | .deepFishing => p.handleCatchFromDeepFishing e msg

namespace FishSlot

def handleMasterSyncMessage (msg : SyncMessage) : Except Fault (HandlingResult × Protocol) :=
  p.doFishedSyncMsg c e msg

/-- The continuation of the catch is not used. -/
def handleWorkSyncMessage (msg : SyncMessage) :
    Except Fault (HandlingResult × Protocol) := do
  let (_, p') ← p.doFishedSyncMsg c e msg
  return (.stopListeningHeardWorkSync, p')

/-- `FishSlotMessageHandler::handle`; control messages are ignored. -/
def handle (msg : SyncMessage) : Except Fault (HandlingResult × Protocol) :=
  match msg.type with
  | .masterSync => handleMasterSyncMessage c e p msg
  | .workSync => handleWorkSyncMessage c e p msg
  | .mergeMyMasterDepart | .mergeMySlaveDepart | .mergeOther =>
      .ok (.stopListeningHeardMergeSync, p)
  | .abandonMastership => .ok (.keepListening, p)
  | .info => .ok (.keepListening, p)
  | .controlNetGranularity | .controlScatterClique | .controlWorkTime | .controlWorkCycle
  | .invalid => .ok (.keepListening, p)

end FishSlot

-- ============================================================================
-- What the handlers can do
-- ============================================================================

/-- A sync message that the sync slot updates the clique by. -/
def adoptsInSyncSlot (msg : SyncMessage) : Bool :=
  (msg.type = .masterSync ∨ msg.type = .workSync) ∧
    (p.isMsgFromMyClique msg.masterID ∨ p.isOtherCliqueBetter msg.masterID)

/-- A sync message that the fish slot, in either mode, updates the clique by. -/
def adoptsInFishSlot (msg : SyncMessage) : Bool :=
  (msg.type = .masterSync ∨ msg.type = .workSync) ∧ p.isOtherCliqueBetter msg.masterID

/-- The effects of a message heard in the sync slot. -/
inductive SyncSlotHeard (c : Config) (e : Env) (p : Protocol) (msg : SyncMessage) :
    Protocol → Prop
  /-- the clique is updated, and what else the message carries -/
  | joined {s : Schedule} {g : NetGranularity} {x : TransmitPowerdBm} {w : Bool}
      {a : List AppCall} (h_adopts : p.adoptsInSyncSlot msg = true)
      (h_adjust : p.schedule.adjustBySyncMsg msg e.timeOfArrival = .ok s) :
      SyncSlotHeard c e p msg
        { p.joining msg s with
          countSyncSlotsWithoutSyncMsg := 0
          granularity := g, xmitPower := x, heardWork := w, appCalls := a }
  /-- a slave scatters -/
  | scattered {i : IntraCliqueManager} {f : Fishing} {s : Schedule}
      (h_type : msg.type = .controlScatterClique)
      (h_mine : p.isMsgFromMyClique msg.masterID = true)
      (h_slave : p.isSelfMaster c = false)
      (h_fishing : p.fishing.restartTrollingMode = .ok f)
      (h_adjust : p.schedule.adjustWithRandomAddedTime e.randomOffset = .ok s) :
      SyncSlotHeard c e p msg
        { p with
          intraClique := i, masterID := c.id, isAdvancedStage := false
          fishing := f, schedule := s }
  /-- the master abandons -/
  | assumed (h_type : msg.type = .abandonMastership) :
      SyncSlotHeard c e p msg { p with masterID := c.id }
  /-- a merger of either kind says where to fish -/
  | enticed {callback : DeepFishingCallback}
      (h_type : msg.type = .mergeOther ∨ msg.type = .mergeMyMasterDepart ∨
        msg.type = .mergeMySlaveDepart) :
      SyncSlotHeard c e p msg
        { p with
          fishing := p.fishing.switchToDeepFishing (p.getFishingDeltaFromMergeMsg c e msg)
            callback
          countMergeSyncHeard := p.countMergeSyncHeard + 1 }
  /-- nothing about the clique, the role or fishing -/
  | other {i : IntraCliqueManager} {g : NetGranularity} {x : TransmitPowerdBm} {w : Bool}
      {a : List AppCall} (h_not : p.adoptsInSyncSlot msg = false) :
      SyncSlotHeard c e p msg
        { p with
          intraClique := i, granularity := g, xmitPower := x, heardWork := w, appCalls := a }

/-- The effects of a message heard in the fish slot. -/
inductive FishSlotHeard (c : Config) (e : Env) (p : Protocol) (msg : SyncMessage) :
    Protocol → Prop
  | mergesMy {s : Schedule} (h_role : p.role = .fisher) (h_mode : p.fishing.mode = .trolling)
      (h_adopts : p.adoptsInFishSlot msg = true) (h_ne : msg.masterID ≠ c.id)
      (h_adjust : p.schedule.adjustBySyncMsg msg e.timeOfArrival = .ok s) :
      FishSlotHeard c e p msg (mergingMy c p msg
        (CliqueMerger.periodTimeToMergeMyClique c p.schedule e.timeOfArrival) s)
  | mergesOther (h_role : p.role = .fisher) (h_mode : p.fishing.mode = .trolling)
      (h_type : msg.type = .masterSync ∨ msg.type = .workSync)
      (h_not : p.isOtherCliqueBetter msg.masterID = false) :
      FishSlotHeard c e p msg (mergingOther p msg
        (CliqueMerger.periodTimeToMergeOtherClique c p.schedule e.timeOfArrival))
  | caughtDeep {s : Schedule} (h_mode : p.fishing.mode = .deepFishing)
      (h_adopts : p.adoptsInFishSlot msg = true)
      (h_adjust : p.schedule.adjustBySyncMsg msg e.timeOfArrival = .ok s) :
      FishSlotHeard c e p msg
        { p.joining msg s with fishing := p.fishing.switchToTrolling }
  | kept (h_not : p.adoptsInFishSlot msg = false) : FishSlotHeard c e p msg p

section Spec

variable {c : Config} {e : Env} {p p' : Protocol} {msg : SyncMessage} {flt : Fault}
  {r : HandlingResult}

theorem adoptsInSyncSlot_iff : p.adoptsInSyncSlot msg = true ↔
    (msg.type = .masterSync ∨ msg.type = .workSync) ∧
      (p.isMsgFromMyClique msg.masterID = true ∨ p.isOtherCliqueBetter msg.masterID = true) :=
  decide_eq_true_iff

theorem adoptsInFishSlot_iff : p.adoptsInFishSlot msg = true ↔
    (msg.type = .masterSync ∨ msg.type = .workSync) ∧
      p.isOtherCliqueBetter msg.masterID = true :=
  decide_eq_true_iff

theorem trySetGranularity_eq (p : Protocol) (granularity : NetGranularity) :
    ∃ g x, p.trySetGranularity granularity = { p with granularity := g, xmitPower := x } := by
  unfold trySetGranularity
  split
  · exact ⟨p.granularity, p.xmitPower, rfl⟩
  · exact ⟨_, _, rfl⟩

theorem cancelAnyUpstreamingInProgress_eq (c : Config) (p : Protocol) :
    ∃ i, p.cancelAnyUpstreamingInProgress c = { p with intraClique := i } := by
  unfold cancelAnyUpstreamingInProgress
  split
  · exact ⟨_, rfl⟩
  · exact ⟨p.intraClique, rfl⟩

theorem handleNetGranularityMessage_eq (c : Config) (p : Protocol) (msg : SyncMessage) :
    ∃ i, p.handleNetGranularityMessage c msg = { p with intraClique := i } := by
  unfold handleNetGranularityMessage
  dsimp only
  split
  · exact ⟨p.intraClique, rfl⟩
  · split
    · split
      · exact ⟨_, rfl⟩
      · exact cancelAnyUpstreamingInProgress_eq c p
    · exact ⟨p.intraClique, rfl⟩

theorem handleWorkTimeMessage_eq (c : Config) (p : Protocol) (msg : SyncMessage) :
    ∃ a, p.handleWorkTimeMessage c msg = { p with appCalls := a } := by
  unfold handleWorkTimeMessage
  split
  · exact ⟨_, rfl⟩
  · exact ⟨p.appCalls, rfl⟩

theorem handleWorkCycleMessage_eq (c : Config) (p : Protocol) (msg : SyncMessage) :
    ∃ a, p.handleWorkCycleMessage c msg = { p with appCalls := a } := by
  unfold handleWorkCycleMessage
  split
  · exact ⟨_, rfl⟩
  · exact ⟨p.appCalls, rfl⟩

theorem handleWorkAspectOfWorkCarryingMsg_eq (p : Protocol) (msg : SyncMessage) :
    ∃ w a, p.handleWorkAspectOfWorkCarryingMsg msg =
      { p with heardWork := w, appCalls := a } := by
  unfold handleWorkAspectOfWorkCarryingMsg
  split
  · exact ⟨_, _, rfl⟩
  · exact ⟨p.heardWork, p.appCalls, rfl⟩

theorem handleGranularityAspectOfMasterSync_eq (p : Protocol) (msg : SyncMessage) :
    ∃ g x, p.handleGranularityAspectOfMasterSync msg =
      { p with granularity := g, xmitPower := x } := by
  unfold handleGranularityAspectOfMasterSync
  dsimp only
  split
  · exact trySetGranularity_eq p _
  · exact ⟨p.granularity, p.xmitPower, rfl⟩

/-- By the time it is asked whether the message is from the clique, it is: a
    merger is never stopped by the sync message of a better clique. -/
theorem handleSuperiorOrSameSyncMsg_eq (e : Env) (p : Protocol) (msg : SyncMessage) :
    p.handleSuperiorOrSameSyncMsg e msg = p.updateBySyncMessage e msg := by
  unfold handleSuperiorOrSameSyncMsg
  rcases h_upd : p.updateBySyncMessage e msg with f | p₁
  · rfl
  · obtain ⟨-, s, -, rfl⟩ := updateBySyncMessage_eq_ok.1 h_upd
    have h_mine : (p.joining msg s).isMsgFromMyClique msg.masterID = true := decide_eq_true rfl
    have h_stay : (p.joining msg s).handleSuperiorOrSameSyncWhileMerging msg =
        p.joining msg s := if_pos h_mine
    show (if (p.joining msg s).role = .merger then
        Except.ok ((p.joining msg s).handleSuperiorOrSameSyncWhileMerging msg)
      else Except.ok (p.joining msg s)) = Except.ok (p.joining msg s)
    rw [h_stay, ite_self]

theorem filterSyncMsg_eq_ok {b : Bool} (h : p.filterSyncMsg e msg = .ok (b, p')) :
    ((p.isMsgFromMyClique msg.masterID = true ∨ p.isOtherCliqueBetter msg.masterID = true) ∧
        ∃ s, p.schedule.adjustBySyncMsg msg e.timeOfArrival = .ok s ∧
          p' = { p.joining msg s with countSyncSlotsWithoutSyncMsg := 0 }) ∨
      (¬ (p.isMsgFromMyClique msg.masterID = true ∨
          p.isOtherCliqueBetter msg.masterID = true) ∧ p' = p) := by
  unfold filterSyncMsg at h
  obtain ⟨-, h⟩ := require_bind_eq_ok.1 h
  have h_joined : ∀ {q : Protocol}, p.handleSuperiorOrSameSyncMsg e msg = .ok q →
      p' = q.heardSync → ∃ s, p.schedule.adjustBySyncMsg msg e.timeOfArrival = .ok s ∧
        p' = { p.joining msg s with countSyncSlotsWithoutSyncMsg := 0 } := by
    intro q h_q h_p'
    rw [handleSuperiorOrSameSyncMsg_eq] at h_q
    obtain ⟨-, s, h_s, rfl⟩ := updateBySyncMessage_eq_ok.1 h_q
    exact ⟨s, h_s, h_p'⟩
  split at h
  · rename_i h_mine
    obtain ⟨q, h_q, h_eq⟩ := bind_return_eq_ok.1 h
    exact Or.inl ⟨Or.inl h_mine, h_joined h_q (Prod.mk.inj h_eq).2⟩
  · rename_i h_mine
    split at h
    · rename_i h_better
      obtain ⟨q, h_q, h_eq⟩ := bind_return_eq_ok.1 h
      exact Or.inl ⟨Or.inr h_better, h_joined h_q (Prod.mk.inj h_eq).2⟩
    · rename_i h_better
      cases h
      exact Or.inr ⟨not_or.2 ⟨h_mine, h_better⟩, rfl⟩

theorem filterSyncMsg_eq_error (h_carries : msg.type.doesCarrySync = true)
    (h : p.filterSyncMsg e msg = .error flt) :
    (p.isMsgFromMyClique msg.masterID = true ∨ p.isOtherCliqueBetter msg.masterID = true) ∧
      p.schedule.adjustBySyncMsg msg e.timeOfArrival = .error flt := by
  have h_update : p.handleSuperiorOrSameSyncMsg e msg = .error flt →
      p.schedule.adjustBySyncMsg msg e.timeOfArrival = .error flt := by
    intro h_q
    rw [handleSuperiorOrSameSyncMsg_eq] at h_q
    exact updateBySyncMessage_eq_error h_carries h_q
  unfold filterSyncMsg at h
  rcases require_bind_eq_error.1 h with ⟨h_not, -⟩ | ⟨-, h⟩
  · exact absurd h_carries h_not
  · split at h
    · rename_i h_mine
      exact ⟨Or.inl h_mine, h_update (bind_return_eq_error.1 h)⟩
    · split at h
      · rename_i h_better
        exact ⟨Or.inr h_better, h_update (bind_return_eq_error.1 h)⟩
      · cases h

theorem handleScatterMessage_eq_ok (h : p.handleScatterMessage c e msg = .ok p') :
    (∃ i, p' = { p with intraClique := i }) ∨
      (p.isMsgFromMyClique msg.masterID = true ∧ p.isSelfMaster c = false ∧
        ∃ i f s, p.fishing.restartTrollingMode = .ok f ∧
          p.schedule.adjustWithRandomAddedTime e.randomOffset = .ok s ∧
          p' = { p with
            intraClique := i, masterID := c.id, isAdvancedStage := false
            fishing := f, schedule := s }) := by
  unfold handleScatterMessage at h
  split at h
  · rename_i h_mine
    split at h
    · cases h
      exact Or.inl ⟨_, rfl⟩
    · rename_i h_slave
      obtain ⟨i, h_i⟩ := cancelAnyUpstreamingInProgress_eq c p
      rw [h_i] at h
      obtain ⟨f, s, h_f, h_s, rfl⟩ := scatterSync_eq_ok.1 h
      exact Or.inr ⟨h_mine, eq_false_of_ne_true h_slave, i, f, s, h_f, h_s, rfl⟩
  · cases h
    exact Or.inl ⟨p.intraClique, rfl⟩

theorem handleScatterMessage_eq_error (h : p.handleScatterMessage c e msg = .error flt)
    (h_adj : flt.isAdjust = true) :
    p.schedule.adjustWithRandomAddedTime e.randomOffset = .error flt := by
  unfold handleScatterMessage at h
  split at h
  · split at h
    · cases h
    · obtain ⟨i, h_i⟩ := cancelAnyUpstreamingInProgress_eq c p
      rw [h_i] at h
      rcases scatterSync_eq_error h with h_f | h_s
      · exact Fault.elim_isAdjust h_adj rfl h_f
      · exact h_s
  · cases h

/-- A sync message of the filtered types, with what its handler did before. -/
theorem handleSyncAspect_heard {q : Protocol} {g : NetGranularity} {x : TransmitPowerdBm}
    {w : Bool} {a : List AppCall} (h_type : msg.type = .masterSync ∨ msg.type = .workSync)
    (h_q : q = { p with granularity := g, xmitPower := x, heardWork := w, appCalls := a })
    (h : q.handleSyncAspectOfSyncCarryingMsg e msg = .ok (r, p')) :
    SyncSlotHeard c e p msg p' := by
  obtain ⟨⟨b, p₁⟩, h_filter, h_eq⟩ := bind_return_eq_ok.1 h
  obtain rfl : p' = p₁ := (Prod.mk.inj h_eq).2
  subst h_q
  rcases filterSyncMsg_eq_ok h_filter with ⟨h_keeps, s, h_s, rfl⟩ | ⟨h_keeps, rfl⟩
  · exact SyncSlotHeard.joined (adoptsInSyncSlot_iff.2 ⟨h_type, h_keeps⟩) h_s
  · refine SyncSlotHeard.other (eq_false_of_ne_true fun h_adopts => h_keeps ?_)
    exact (adoptsInSyncSlot_iff.1 h_adopts).2

/-- Every handler of the sync slot has one of the effects. -/
theorem SyncSlot.handle_heard (h : SyncSlot.handle c e p msg = .ok (r, p')) :
    SyncSlotHeard c e p msg p' := by
  have h_other : ∀ {t : MessageType}, msg.type = t → t ≠ .masterSync → t ≠ .workSync →
      p.adoptsInSyncSlot msg = false := by
    intro t h_t h_master h_work
    refine eq_false_of_ne_true fun h_adopts => ?_
    rcases (adoptsInSyncSlot_iff.1 h_adopts).1 with h_m | h_w
    · exact h_master (h_t.symm.trans h_m)
    · exact h_work (h_t.symm.trans h_w)
  unfold SyncSlot.handle at h
  split at h
  case h_1 h_t =>
    obtain ⟨g, x, h_q⟩ := handleGranularityAspectOfMasterSync_eq p msg
    exact handleSyncAspect_heard (Or.inl h_t) h_q h
  case h_2 h_t =>
    cases h
    exact SyncSlotHeard.enticed (Or.inl h_t)
  case h_3 h_t =>
    cases h
    exact SyncSlotHeard.enticed (Or.inr (Or.inl h_t))
  case h_4 h_t =>
    cases h
    exact SyncSlotHeard.enticed (Or.inr (Or.inr h_t))
  case h_5 h_t =>
    obtain ⟨w, a, h_q⟩ := handleWorkAspectOfWorkCarryingMsg_eq p msg
    exact handleSyncAspect_heard (Or.inr h_t) h_q h
  case h_6 h_t =>
    cases h
    exact SyncSlotHeard.assumed h_t
  case h_7 h_t =>
    cases h
    exact SyncSlotHeard.other (h_other h_t (by decide) (by decide))
  case h_8 h_t =>
    cases h
    obtain ⟨i, h_i⟩ := handleNetGranularityMessage_eq c p msg
    rw [h_i]
    exact SyncSlotHeard.other (h_other h_t (by decide) (by decide))
  case h_9 h_t =>
    obtain ⟨p₁, h_scatter, h_eq⟩ := bind_return_eq_ok.1 h
    obtain rfl : p' = p₁ := (Prod.mk.inj h_eq).2
    rcases handleScatterMessage_eq_ok h_scatter with ⟨i, rfl⟩ | ⟨h_mine, h_slave, h_rest⟩
    · exact SyncSlotHeard.other (h_other h_t (by decide) (by decide))
    · obtain ⟨i, f, s, h_f, h_s, rfl⟩ := h_rest
      exact SyncSlotHeard.scattered h_t h_mine h_slave h_f h_s
  case h_10 h_t =>
    cases h
    obtain ⟨a, h_a⟩ := handleWorkTimeMessage_eq c p msg
    rw [h_a]
    exact SyncSlotHeard.other (h_other h_t (by decide) (by decide))
  case h_11 h_t =>
    cases h
    obtain ⟨a, h_a⟩ := handleWorkCycleMessage_eq c p msg
    rw [h_a]
    exact SyncSlotHeard.other (h_other h_t (by decide) (by decide))
  case h_12 h_t =>
    cases h
    exact SyncSlotHeard.other (h_other h_t (by decide) (by decide))

theorem doesCarrySync_of_type (h : msg.type = .masterSync ∨ msg.type = .workSync) :
    msg.type.doesCarrySync = true := by
  rcases h with h | h <;> rw [h] <;> rfl

theorem handleSyncAspect_eq_error {q : Protocol} {g : NetGranularity} {x : TransmitPowerdBm}
    {w : Bool} {a : List AppCall} (h_type : msg.type = .masterSync ∨ msg.type = .workSync)
    (h_q : q = { p with granularity := g, xmitPower := x, heardWork := w, appCalls := a })
    (h : q.handleSyncAspectOfSyncCarryingMsg e msg = .error flt) :
    p.adoptsInSyncSlot msg = true ∧
      p.schedule.adjustBySyncMsg msg e.timeOfArrival = .error flt := by
  subst h_q
  obtain ⟨h_keeps, h_s⟩ :=
    filterSyncMsg_eq_error (doesCarrySync_of_type h_type) (bind_return_eq_error.1 h)
  exact ⟨adoptsInSyncSlot_iff.2 ⟨h_type, h_keeps⟩, h_s⟩

/-- A handler of the sync slot stops only where it adjusts the schedule by the
    message, or where a slave scatters. -/
theorem SyncSlot.handle_eq_error (h : SyncSlot.handle c e p msg = .error flt) :
    (p.adoptsInSyncSlot msg = true ∧
        p.schedule.adjustBySyncMsg msg e.timeOfArrival = .error flt) ∨
      (msg.type = .controlScatterClique ∧ p.handleScatterMessage c e msg = .error flt) := by
  unfold SyncSlot.handle at h
  split at h
  case h_1 h_t =>
    obtain ⟨g, x, h_q⟩ := handleGranularityAspectOfMasterSync_eq p msg
    exact Or.inl (handleSyncAspect_eq_error (Or.inl h_t) h_q h)
  case h_5 h_t =>
    obtain ⟨w, a, h_q⟩ := handleWorkAspectOfWorkCarryingMsg_eq p msg
    exact Or.inl (handleSyncAspect_eq_error (Or.inr h_t) h_q h)
  case h_9 h_t => exact Or.inr ⟨h_t, bind_return_eq_error.1 h⟩
  all_goals cases h

/-- Every handler of the fish slot has one of the effects. -/
theorem doFishedSyncMsg_heard (h_type : msg.type = .masterSync ∨ msg.type = .workSync)
    (h : p.doFishedSyncMsg c e msg = .ok (r, p')) : FishSlotHeard c e p msg p' := by
  unfold doFishedSyncMsg at h
  split at h
  case h_1 =>
    obtain ⟨p₁, h_merge, h_eq⟩ := bind_return_eq_ok.1 h
    obtain rfl : p' = p₁ := (Prod.mk.inj h_eq).2
    obtain ⟨h_role, h_mode, -, h_kind⟩ := toMergerFromFisher_eq_ok h_merge
    rcases h_kind with ⟨h_better, h_ne, s, h_s, rfl⟩ | ⟨h_not, rfl⟩
    · exact FishSlotHeard.mergesMy h_role h_mode
        (adoptsInFishSlot_iff.2 ⟨h_type, h_better⟩) h_ne h_s
    · exact FishSlotHeard.mergesOther h_role h_mode h_type h_not
  case h_2 h_mode =>
    unfold handleCatchFromDeepFishing at h
    obtain ⟨-, h⟩ := require_bind_eq_ok.1 h
    split at h
    · rename_i h_better
      obtain ⟨p₁, h_upd, h_eq⟩ := bind_return_eq_ok.1 h
      obtain ⟨-, s, h_s, rfl⟩ := updateBySyncMessage_eq_ok.1 h_upd
      rw [(Prod.mk.inj h_eq).2]
      exact FishSlotHeard.caughtDeep h_mode (adoptsInFishSlot_iff.2 ⟨h_type, h_better⟩) h_s
    · rename_i h_worse
      cases h
      refine FishSlotHeard.kept (eq_false_of_ne_true fun h_adopts => ?_)
      exact h_worse (adoptsInFishSlot_iff.1 h_adopts).2

theorem FishSlot.handle_heard (h : FishSlot.handle c e p msg = .ok (r, p')) :
    FishSlotHeard c e p msg p' := by
  unfold FishSlot.handle at h
  split at h
  case h_1 h_t => exact doFishedSyncMsg_heard (Or.inl h_t) h
  case h_2 h_t =>
    obtain ⟨⟨r₁, p₁⟩, h_fished, h_eq⟩ := bind_return_eq_ok.1 h
    obtain rfl : p' = p₁ := (Prod.mk.inj h_eq).2
    exact doFishedSyncMsg_heard (Or.inr h_t) h_fished
  all_goals
    rename_i h_t
    cases h
    refine FishSlotHeard.kept (eq_false_of_ne_true fun h_adopts => ?_)
    obtain ⟨h_type, -⟩ := adoptsInFishSlot_iff.1 h_adopts
    simp only [h_t, reduceCtorEq, or_self] at h_type

/-- A sync message fished while trolling makes a merger, of either type. -/
theorem FishSlot.handle_catches (h_mode : p.fishing.mode = .trolling)
    (h_type : msg.type = .masterSync ∨ msg.type = .workSync)
    (h : FishSlot.handle c e p msg = .ok (r, p')) : p.toMergerFromFisher c e msg = .ok p' := by
  have h_fished : ∃ r', p.doFishedSyncMsg c e msg = .ok (r', p') := by
    unfold FishSlot.handle at h
    rcases h_type with h_t | h_t <;> rw [h_t] at h
    · exact ⟨r, h⟩
    · obtain ⟨⟨r', p₂⟩, h_fished, h_eq⟩ := bind_return_eq_ok.1 h
      obtain rfl : p' = p₂ := (Prod.mk.inj h_eq).2
      exact ⟨r', h_fished⟩
  obtain ⟨r', h_fished⟩ := h_fished
  unfold doFishedSyncMsg at h_fished
  rw [h_mode] at h_fished
  obtain ⟨p₂, h_catch, h_eq⟩ := bind_return_eq_ok.1 h_fished
  rw [h_catch, (Prod.mk.inj h_eq).2]

theorem doFishedSyncMsg_eq_error (h_type : msg.type = .masterSync ∨ msg.type = .workSync)
    (h : p.doFishedSyncMsg c e msg = .error flt) (h_adj : flt.isAdjust = true) :
    p.adoptsInFishSlot msg = true ∧
      p.schedule.adjustBySyncMsg msg e.timeOfArrival = .error flt := by
  unfold doFishedSyncMsg at h
  split at h
  case h_1 =>
    obtain ⟨h_better, h_s⟩ := toMergerFromFisher_eq_error (bind_return_eq_error.1 h) h_adj
    exact ⟨adoptsInFishSlot_iff.2 ⟨h_type, h_better⟩, h_s⟩
  case h_2 =>
    unfold handleCatchFromDeepFishing at h
    rcases require_bind_eq_error.1 h with ⟨-, h_f⟩ | ⟨h_carries, h⟩
    · exact Fault.elim_isAdjust h_adj rfl h_f
    · split at h
      · rename_i h_better
        have h_s := updateBySyncMessage_eq_error h_carries (bind_return_eq_error.1 h)
        exact ⟨adoptsInFishSlot_iff.2 ⟨h_type, h_better⟩, h_s⟩
      · cases h

theorem FishSlot.handle_eq_error (h : FishSlot.handle c e p msg = .error flt)
    (h_adj : flt.isAdjust = true) :
    p.adoptsInFishSlot msg = true ∧
      p.schedule.adjustBySyncMsg msg e.timeOfArrival = .error flt := by
  unfold FishSlot.handle at h
  split at h
  case h_1 h_t => exact doFishedSyncMsg_eq_error (Or.inl h_t) h h_adj
  case h_2 h_t => exact doFishedSyncMsg_eq_error (Or.inr h_t) (bind_return_eq_error.1 h) h_adj
  all_goals cases h

end Spec

end Protocol

end SleepSync
