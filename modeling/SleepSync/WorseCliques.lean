/-
  SleepSync.WorseCliques

  What messages of worse cliques do in the sync slot.

  Sync and work are filtered by the rank of the clique, controls by whether the
  message is of the unit's own clique.  Three handlers ask neither: the granularity
  aspect of a MasterSync, the merge messages, and the abandonment.  Where these
  have nothing left to change, a message of a worse clique leaves everything as it
  is and the receiver on, so such messages may be inserted anywhere into what is
  heard in a sync slot.

  The count of merge messages heard is a statistic that nothing reads; it is not
  part of the state compared.
-/

import SleepSync.GivingUp
import SleepSync.Lib.Insertion

namespace SleepSync

open Lib Protocol

namespace Protocol

variable (c : Config) (p : Protocol)

/-- The state without the count of merge messages heard. -/
def uncounted : Protocol := { p with countMergeSyncHeard := 0 }

/-- What a message of a worse clique must not change. -/
structure Unaffected (p p' : Protocol) : Prop where
  masterID : p'.masterID = p.masterID
  schedule : p'.schedule = p.schedule
  dropout : p'.countSyncSlotsWithoutSyncMsg = p.countSyncSlotsWithoutSyncMsg
  granularity : p'.granularity = p.granularity
  xmitPower : p'.xmitPower = p.xmitPower
  fishingMode : p'.fishing.mode = p.fishing.mode
  deep : p'.fishing.deep = p.fishing.deep
  cliqueMerger : p'.cliqueMerger = p.cliqueMerger
  role : p'.role = p.role
  appCalls : p'.appCalls = p.appCalls

theorem eq_of_uncounted {p p' : Protocol} (h : p'.uncounted = p.uncounted) :
    ∃ n, p' = { p with countMergeSyncHeard := n } := by
  have h_recounted : { p'.uncounted with countMergeSyncHeard := p'.countMergeSyncHeard } =
      { p.uncounted with countMergeSyncHeard := p'.countMergeSyncHeard } := by rw [h]
  exact ⟨p'.countMergeSyncHeard, h_recounted⟩

theorem Unaffected.of_uncounted {p p' : Protocol} (h : p'.uncounted = p.uncounted) :
    p.Unaffected p' := by
  obtain ⟨n, rfl⟩ := eq_of_uncounted h
  exact ⟨rfl, rfl, rfl, rfl, rfl, rfl, rfl, rfl, rfl, rfl⟩

/-- The handlers that do not ask for the clique have nothing to change: the
    granularity is the unit's own or no granularity, the unit fishes deep already,
    the unit is its own master. -/
def hasNothingToChange (msg : SyncMessage) : Bool :=
  match msg.type with
  | .masterSync =>
      Granularity.getFromRaw msg.work = .invalid ∨
        Granularity.getFromRaw msg.work = p.granularity
  | .mergeOther | .mergeMyMasterDepart | .mergeMySlaveDepart => p.fishing.mode = .deepFishing
  | .abandonMastership => p.isSelfMaster c
  | _ => true

-- ============================================================================
-- The handlers that ask for the clique
-- ============================================================================

section Filtered

variable {c : Config} {e : Env} {p p' : Protocol} {msg : SyncMessage} {r : HandlingResult}

theorem not_mine_of_worse (h : p.masterID < msg.masterID) :
    p.isMsgFromMyClique msg.masterID = false :=
  decide_eq_false (Nat.ne_of_lt h)

theorem not_better_of_worse (h : p.masterID < msg.masterID) :
    p.isOtherCliqueBetter msg.masterID = false :=
  decide_eq_false (Nat.not_lt_of_lt h)

/-- The filter of sync messages lets a worse one go by. -/
theorem handleSyncAspect_of_worse (e : Env) (h_carries : msg.type.doesCarrySync = true)
    (h : p.masterID < msg.masterID) :
    p.handleSyncAspectOfSyncCarryingMsg e msg = .ok (.keepListening, p) := by
  have h_filter : p.filterSyncMsg e msg = .ok (false, p) := by
    unfold filterSyncMsg
    refine require_bind_eq_ok.2 ⟨h_carries, ?_⟩
    rw [not_mine_of_worse h, not_better_of_worse h]
    rfl
  unfold handleSyncAspectOfSyncCarryingMsg
  rw [h_filter]
  rfl

theorem handleGranularityAspect_frame (p : Protocol) (msg : SyncMessage) :
    ∃ g x, p.handleGranularityAspectOfMasterSync msg =
        { p with granularity := g, xmitPower := x } ∧
      (g = p.granularity ↔ Granularity.getFromRaw msg.work = .invalid ∨
        Granularity.getFromRaw msg.work = p.granularity) ∧
      (g = p.granularity → x = p.xmitPower) := by
  unfold handleGranularityAspectOfMasterSync trySetGranularity
  dsimp only
  by_cases h_same : Granularity.getFromRaw msg.work = p.granularity
  · rw [if_neg (not_not.2 h_same)]
    exact ⟨p.granularity, p.xmitPower, rfl, iff_of_true rfl (Or.inr h_same), fun _ => rfl⟩
  · rw [if_pos h_same]
    by_cases h_invalid : Granularity.getFromRaw msg.work = .invalid
    · rw [if_pos h_invalid]
      exact ⟨p.granularity, p.xmitPower, rfl, iff_of_true rfl (Or.inl h_invalid), fun _ => rfl⟩
    · rw [if_neg h_invalid]
      refine ⟨_, _, rfl, iff_of_false h_same ?_, fun h_eq => absurd h_eq h_same⟩
      rintro (h_i | h_s)
      · exact h_invalid h_i
      · exact h_same h_s

/-- The fishing manager looks at the first of several merge messages only. -/
theorem switchToDeepFishing_frame (f : Fishing) (delta : Nat) (callback : DeepFishingCallback) :
    (f.mode = .deepFishing → f.switchToDeepFishing delta callback = f) ∧
      (f.switchToDeepFishing delta callback).mode = .deepFishing := by
  unfold Fishing.switchToDeepFishing
  by_cases h : f.mode = .deepFishing
  · rw [if_neg (not_not.2 h)]
    exact ⟨fun _ => rfl, h⟩
  · rw [if_pos h]
    exact ⟨fun h_deep => absurd h_deep h, rfl⟩

/-- The handling of a message of a worse clique by a handler that leaves `p'`. -/
def HandledWorse (c : Config) (e : Env) (p : Protocol) (msg : SyncMessage) : Prop :=
  ∃ p', SyncSlot.handle c e p msg = .ok (.keepListening, p') ∧
    (p.hasNothingToChange c msg = true → p'.uncounted = p.uncounted) ∧
    (p.Unaffected p' → p.hasNothingToChange c msg = true)

/-- A handler that does nothing. -/
theorem HandledWorse.of_same (h : SyncSlot.handle c e p msg = .ok (.keepListening, p))
    (h_nothing : p.hasNothingToChange c msg = true) : HandledWorse c e p msg :=
  ⟨p, h, fun _ => rfl, fun _ => h_nothing⟩

theorem masterSync_handledWorse (e : Env) (h_type : msg.type = .masterSync)
    (h : p.masterID < msg.masterID) : HandledWorse c e p msg := by
  obtain ⟨g, x, h_eq, h_g, h_x⟩ := handleGranularityAspect_frame p msg
  have h_nothing : p.hasNothingToChange c msg = true ↔ g = p.granularity := by
    unfold hasNothingToChange
    rw [h_type, h_g]
    exact decide_eq_true_iff
  refine ⟨{ p with granularity := g, xmitPower := x }, ?_, fun h_same => ?_,
    fun h_frame => h_nothing.2 h_frame.granularity⟩
  · unfold SyncSlot.handle SyncSlot.handleMasterSyncMessage
    rw [h_type, h_eq]
    exact handleSyncAspect_of_worse e (by rw [h_type]; rfl) h
  · have h_granularity := h_nothing.1 h_same
    rw [h_granularity, h_x h_granularity]

theorem mergeClass_handledWorse (callback : DeepFishingCallback)
    (h_handle : SyncSlot.handle c e p msg = .ok (p.handleMergeClassMessage c e callback msg))
    (h_nothing : p.hasNothingToChange c msg = decide (p.fishing.mode = .deepFishing)) :
    HandledWorse c e p msg := by
  obtain ⟨h_same, h_deep⟩ := switchToDeepFishing_frame p.fishing
    (p.getFishingDeltaFromMergeMsg c e msg) callback
  refine ⟨_, h_handle, fun h_already => ?_, fun h_frame => ?_⟩
  · rw [h_nothing] at h_already
    unfold uncounted
    dsimp only
    rw [h_same (of_decide_eq_true h_already)]
  · rw [h_nothing]
    exact decide_eq_true (h_frame.fishingMode.symm.trans h_deep)

/-- Every message of a worse clique is handled, leaves the receiver on, and
    changes something exactly where there is something to change. -/
theorem handle_of_worse (c : Config) (e : Env) (h : p.masterID < msg.masterID) :
    HandledWorse c e p msg := by
  have h_not_mine := not_mine_of_worse h
  have h_not_master : p.isMsgForSelfAsMaster c msg = false := by
    unfold isMsgForSelfAsMaster
    rw [h_not_mine]
    simp only [Bool.false_eq_true, false_and, decide_false]
  cases h_type : msg.type with
  | masterSync => exact masterSync_handledWorse e h_type h
  | mergeOther =>
      apply mergeClass_handledWorse .endWithNoAction
      · unfold SyncSlot.handle
        rw [h_type]
        rfl
      · unfold hasNothingToChange
        rw [h_type]
  | mergeMyMasterDepart =>
      apply mergeClass_handledWorse .endWithRecoverMaster
      · unfold SyncSlot.handle
        rw [h_type]
        rfl
      · unfold hasNothingToChange
        rw [h_type]
  | mergeMySlaveDepart =>
      apply mergeClass_handledWorse .endWithNoAction
      · unfold SyncSlot.handle
        rw [h_type]
        rfl
      · unfold hasNothingToChange
        rw [h_type]
  | abandonMastership =>
      have h_nothing : p.hasNothingToChange c msg = p.isSelfMaster c := by
        unfold hasNothingToChange
        rw [h_type]
      refine ⟨{ p with masterID := c.id }, ?_, fun h_self => ?_, fun h_frame => ?_⟩
      · unfold SyncSlot.handle
        rw [h_type]
        rfl
      · rw [h_nothing] at h_self
        have h_own : p.masterID = c.id := of_decide_eq_true h_self
        rw [← h_own]
      · rw [h_nothing]
        exact decide_eq_true h_frame.masterID.symm
  | workSync =>
      apply HandledWorse.of_same
      · have h_work : p.handleWorkAspectOfWorkCarryingMsg msg = p := by
          unfold handleWorkAspectOfWorkCarryingMsg
          rw [h_not_mine]
          rfl
        unfold SyncSlot.handle SyncSlot.handleWorkSyncMessage
        rw [h_type, h_work]
        exact handleSyncAspect_of_worse e (by rw [h_type]; rfl) h
      · unfold hasNothingToChange
        rw [h_type]
  | controlNetGranularity =>
      apply HandledWorse.of_same
      · unfold SyncSlot.handle handleNetGranularityMessage
        rw [h_type, h_not_mine]
        simp only [Bool.false_eq_true, if_false, ite_self]
      · unfold hasNothingToChange
        rw [h_type]
  | controlScatterClique =>
      apply HandledWorse.of_same
      · unfold SyncSlot.handle handleScatterMessage
        rw [h_type, h_not_mine]
        rfl
      · unfold hasNothingToChange
        rw [h_type]
  | controlWorkTime =>
      apply HandledWorse.of_same
      · unfold SyncSlot.handle handleWorkTimeMessage
        rw [h_type, h_not_master]
        rfl
      · unfold hasNothingToChange
        rw [h_type]
  | controlWorkCycle =>
      apply HandledWorse.of_same
      · unfold SyncSlot.handle handleWorkCycleMessage
        rw [h_type, h_not_master]
        rfl
      · unfold hasNothingToChange
        rw [h_type]
  | info =>
      apply HandledWorse.of_same
      · unfold SyncSlot.handle
        rw [h_type]
      · unfold hasNothingToChange
        rw [h_type]
  | invalid =>
      apply HandledWorse.of_same
      · unfold SyncSlot.handle
        rw [h_type]
      · unfold hasNothingToChange
        rw [h_type]

end Filtered

-- ============================================================================
-- Nothing reads the count
-- ============================================================================

section Uncounted

variable (c : Config) (e : Env) (p : Protocol) (msg : SyncMessage)

theorem handleGranularityAspect_uncounted :
    p.uncounted.handleGranularityAspectOfMasterSync msg =
      (p.handleGranularityAspectOfMasterSync msg).uncounted := by
  unfold handleGranularityAspectOfMasterSync trySetGranularity
  dsimp only
  rw [apply_ite uncounted, apply_ite uncounted]
  rfl

theorem handleWorkAspect_uncounted :
    p.uncounted.handleWorkAspectOfWorkCarryingMsg msg =
      (p.handleWorkAspectOfWorkCarryingMsg msg).uncounted := by
  unfold handleWorkAspectOfWorkCarryingMsg
  rw [apply_ite uncounted]
  rfl

theorem updateBySyncMessage_uncounted :
    p.uncounted.updateBySyncMessage e msg =
      (p.updateBySyncMessage e msg).map uncounted := by
  unfold updateBySyncMessage
  rw [updateMastership_eq, updateMastership_eq]
  cases h_carries : msg.type.doesCarrySync with
  | false => rfl
  | true =>
      have h_schedule : p.uncounted.schedule = p.schedule := rfl
      dsimp only
      rw [h_schedule]
      cases p.schedule.adjustBySyncMsg msg e.timeOfArrival <;> rfl

theorem handleSyncAspect_uncounted :
    p.uncounted.handleSyncAspectOfSyncCarryingMsg e msg =
      (p.handleSyncAspectOfSyncCarryingMsg e msg).map (Prod.map id uncounted) := by
  unfold handleSyncAspectOfSyncCarryingMsg filterSyncMsg
  rw [handleSuperiorOrSameSyncMsg_eq, handleSuperiorOrSameSyncMsg_eq,
    updateBySyncMessage_uncounted]
  cases h_carries : msg.type.doesCarrySync with
  | false => rfl
  | true =>
      have h_mine : p.uncounted.isMsgFromMyClique msg.masterID =
          p.isMsgFromMyClique msg.masterID := rfl
      have h_better : p.uncounted.isOtherCliqueBetter msg.masterID =
          p.isOtherCliqueBetter msg.masterID := rfl
      rw [h_mine, h_better]
      cases p.isMsgFromMyClique msg.masterID with
      | true => cases p.updateBySyncMessage e msg <;> rfl
      | false =>
          cases p.isOtherCliqueBetter msg.masterID with
          | true => cases p.updateBySyncMessage e msg <;> rfl
          | false => rfl

theorem handleNetGranularityMessage_uncounted :
    p.uncounted.handleNetGranularityMessage c msg =
      (p.handleNetGranularityMessage c msg).uncounted := by
  unfold handleNetGranularityMessage cancelAnyUpstreamingInProgress
  dsimp only
  rw [apply_ite uncounted, apply_ite uncounted, apply_ite uncounted, apply_ite uncounted]
  rfl

theorem scatterSync_uncounted :
    p.uncounted.scatterSync c e = (p.scatterSync c e).map uncounted := by
  have h_fishing : p.uncounted.fishing = p.fishing := rfl
  unfold scatterSync grabMastership
  rw [h_fishing]
  cases p.fishing.restartTrollingMode with
  | error flt => rfl
  | ok f =>
      show (p.schedule.adjustWithRandomAddedTime e.randomOffset >>= _) =
        Except.map uncounted (p.schedule.adjustWithRandomAddedTime e.randomOffset >>= _)
      cases p.schedule.adjustWithRandomAddedTime e.randomOffset <;> rfl

theorem handleScatterMessage_uncounted :
    p.uncounted.handleScatterMessage c e msg =
      (p.handleScatterMessage c e msg).map uncounted := by
  have h_mine : p.uncounted.isMsgFromMyClique msg.masterID =
      p.isMsgFromMyClique msg.masterID := rfl
  have h_self : p.uncounted.isSelfMaster c = p.isSelfMaster c := rfl
  have h_cancel : p.uncounted.cancelAnyUpstreamingInProgress c =
      (p.cancelAnyUpstreamingInProgress c).uncounted := by
    unfold cancelAnyUpstreamingInProgress
    rw [apply_ite uncounted]
    rfl
  unfold handleScatterMessage
  rw [h_mine, h_self, h_cancel, scatterSync_uncounted]
  cases p.isMsgFromMyClique msg.masterID with
  | false => rfl
  | true => cases p.isSelfMaster c <;> rfl

theorem handleWork_uncounted :
    p.uncounted.handleWorkTimeMessage c msg = (p.handleWorkTimeMessage c msg).uncounted ∧
      p.uncounted.handleWorkCycleMessage c msg =
        (p.handleWorkCycleMessage c msg).uncounted := by
  unfold handleWorkTimeMessage handleWorkCycleMessage
  rw [apply_ite uncounted, apply_ite uncounted]
  exact ⟨rfl, rfl⟩

/-- A handler makes the same of the rest of the state, whatever the count. -/
theorem handle_uncounted :
    (SyncSlot.handle c e p.uncounted msg).map (Prod.map id uncounted) =
      (SyncSlot.handle c e p msg).map (Prod.map id uncounted) := by
  have h_twice : ∀ x : Except Fault (HandlingResult × Protocol),
      (x.map (Prod.map id uncounted)).map (Prod.map id uncounted) =
        x.map (Prod.map id uncounted) := by
    intro x
    cases x <;> rfl
  unfold SyncSlot.handle SyncSlot.handleMasterSyncMessage SyncSlot.handleWorkSyncMessage
  rw [handleGranularityAspect_uncounted, handleWorkAspect_uncounted,
    handleNetGranularityMessage_uncounted, handleScatterMessage_uncounted,
    (handleWork_uncounted c p msg).1, (handleWork_uncounted c p msg).2]
  rw [handleSyncAspect_uncounted, handleSyncAspect_uncounted]
  cases msg.type with
  | masterSync => exact h_twice _
  | workSync => exact h_twice _
  | controlScatterClique => cases p.handleScatterMessage c e msg <;> rfl
  | _ => rfl

end Uncounted

end Protocol

-- ============================================================================
-- A sync slot
-- ============================================================================

section SyncSlot

variable (c : Config)

/-- The handler of a sync slot, and when the receiver goes on. -/
def hearsInSyncSlot (p : Protocol) (l : Env × SyncMessage) :
    Except Fault (HandlingResult × Protocol) :=
  SyncSlot.handle c l.1 p l.2

def keepsListening (r : HandlingResult) : Bool := r = .keepListening

/-- The state after the messages of a sync slot, in the order they arrive. -/
def hearAll (p : Protocol) (heard : List (Env × SyncMessage)) : Except Fault Protocol :=
  handleAll (hearsInSyncSlot c) keepsListening p heard

/-- A message of a worse clique that has nothing to change. -/
def IsNegligible (p : Protocol) (l : Env × SyncMessage) : Prop :=
  p.masterID < l.2.masterID ∧ p.hasNothingToChange c l.2 = true

theorem hearsInSyncSlot_respects : Respects (hearsInSyncSlot c) uncounted := by
  intro p q l h_view
  unfold hearsInSyncSlot
  rw [← handle_uncounted, h_view, handle_uncounted]

theorem IsNegligible.kept {c : Config} {p : Protocol} {l : Env × SyncMessage}
    (h : IsNegligible c p l) : ∃ r p', hearsInSyncSlot c p l = .ok (r, p') ∧
      keepsListening r = true ∧ p'.uncounted = p.uncounted := by
  obtain ⟨p', h_handle, h_same, -⟩ := handle_of_worse c l.1 h.1
  exact ⟨_, p', h_handle, decide_eq_true rfl, h_same h.2⟩

/-- A message of a worse clique leaves the unit alone exactly where it has nothing
    to change, and then it may be inserted anywhere into a sync slot. -/
theorem worse_cliques_have_no_influence (p : Protocol) :
    (∀ e msg, p.masterID < msg.masterID →
      ((∃ r p', SyncSlot.handle c e p msg = .ok (r, p') ∧ p.Unaffected p') ↔
        p.hasNothingToChange c msg = true)) ∧
    ∀ heard heard', Inserted (hearsInSyncSlot c) (IsNegligible c) p heard heard' →
      (hearAll c p heard').map uncounted = (hearAll c p heard).map uncounted := by
  refine ⟨fun e msg h_worse => ?_, fun heard heard' h_ins => ?_⟩
  · obtain ⟨p₁, h_handle, h_same, h_changes⟩ := handle_of_worse c e h_worse
    refine ⟨?_, fun h_nothing => ?_⟩
    · rintro ⟨r, p', h_p', h_frame⟩
      rw [h_handle] at h_p'
      cases h_p'
      exact h_changes h_frame
    · exact ⟨_, p₁, h_handle, Unaffected.of_uncounted (h_same h_nothing)⟩
  · exact handleAll_inserted (hearsInSyncSlot_respects c) (fun q l h_q => h_q.kept) h_ins rfl

end SyncSlot

-- ============================================================================
-- What clique nine can do
-- ============================================================================

/-- Unit three at its first sync point. -/
def threeAlone : Protocol := (Protocol.boot unitThree 0 0).preludeToSyncPeriod

/-- A MasterSync of nine with the granularity of unit three, which is large. -/
def agreesWithThree : Env × SyncMessage := (arriving 10, masterSyncFrom 9 (.ofTicks 500))

/-- Unit three hears nine, and then its own clique's work. -/
theorem worse_cliques_have_no_influence_threeAlone :
    (hearAll unitThree threeAlone [agreesWithThree,
        (arriving 20, { masterSyncFrom 3 ⟨79980, by decide⟩ with type := .workSync })]).map
          uncounted =
      (hearAll unitThree threeAlone
        [(arriving 20, { masterSyncFrom 3 ⟨79980, by decide⟩ with type := .workSync })]).map
          uncounted := by
  refine (worse_cliques_have_no_influence unitThree threeAlone).2 _ _ ?_
  refine Inserted.idle ⟨by decide, by decide⟩ (fun r p' _ => ?_)
  exact Inserted.handled fun _ _ _ => Inserted.nil

/-- A MasterSync changes the granularity of unit three and a merge message makes
    it fish deep; an abandonment makes a slave of three leave its master. -/
theorem worse_clique_has_influence :
    (∃ p', (protocolSystem unitThree).Reachable threeAlone ∧
      stepProtocol unitThree threeAlone (arriving 10)
        (.hearInSyncSlot (messageFrom 9 .masterSync 1)) = .ok p' ∧
      p'.granularity ≠ threeAlone.granularity) ∧
    (∃ p', stepProtocol unitThree threeAlone (arriving 10)
        (.hearInSyncSlot (messageFrom 9 .mergeOther 3)) = .ok p' ∧
      p'.fishing.mode ≠ threeAlone.fishing.mode) ∧
    ∃ p p', (protocolSystem unitFive).Reachable p ∧ p.masterID = 3 ∧
      stepProtocol unitFive p (arriving 80020)
        (.hearInSyncSlot (messageFrom 9 .abandonMastership 0)) = .ok p' ∧ p'.masterID ≠ 3 := by
  have h_three : (protocolSystem unitThree).Reachable threeAlone :=
    System.Reachable.start ⟨0, 0, rfl⟩
  refine ⟨⟨_, h_three, rfl, by decide⟩, ⟨_, rfl, by decide⟩, ?_⟩
  obtain ⟨p, p', h, -, h_step, h_master, h_own⟩ :=
    System.Reachable.exists_step_of_play (M := protocolSystem unitFive)
      (P := fun p p' => p.masterID = 3 ∧ p'.masterID ≠ 3)
      (joins 0 3 ++ [(Env.quiet 80000, .rollPeriodForward)])
      (arriving 80020, .hearInSyncSlot (messageFrom 9 .abandonMastership 0)) ⟨0, 0, rfl⟩
      (by decide +kernel)
  exact ⟨p, p', h, h_master, h_step, h_own⟩

end SleepSync
