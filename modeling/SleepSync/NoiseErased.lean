/-
  SleepSync.NoiseErased

  Packets without a valid message.

  The radio receives packets whose check sum is wrong and packets that are no
  message of the protocol.  The receiver is started again then, and that is all:
  no task reads the trace (`stepAgent_onto`), and none the clock before its own
  time.  So from every run those packets can be left out, on one unit or on all
  units of a channel, and what is left has the same tasks, packets and provisions
  in the same order, the same frames on the air, and ends in the same state.
-/

import SleepSync.AirElection
import SleepSync.Lib.Erasure
import SleepSync.Receiving

namespace SleepSync

open Lib

namespace Agent

-- ============================================================================
-- What was done before
-- ============================================================================

/-- The unit after it has done `earlier` before. -/
def onto (earlier : List Occurrence) (a : Agent) : Agent :=
  { a with trace := a.trace ++ earlier }

section Onto

variable (c : Config) (e : Env) (tr : List Occurrence) (a : Agent)

@[simp] theorem onto_protocol : (a.onto tr).protocol = a.protocol := rfl
@[simp] theorem onto_prelude : (a.onto tr).prelude = a.prelude := rfl
@[simp] theorem onto_radio : (a.onto tr).radio = a.radio := rfl
@[simp] theorem onto_isDone : (a.onto tr).isDone = a.isDone := rfl

theorem undo_onto : (a.onto tr).undo = a.undo.onto tr := rfl

theorem radioPreludeTaskWSync_onto :
    (a.onto tr).radioPreludeTaskWSync c e = onto tr <$> a.radioPreludeTaskWSync c e := by
  unfold radioPreludeTaskWSync
  rw [map_bind]
  rfl

theorem syncSlotAfterSyncSlot_onto :
    (a.onto tr).syncSlotAfterSyncSlot c e = onto tr <$> a.syncSlotAfterSyncSlot c e := by
  unfold syncSlotAfterSyncSlot
  rw [map_bind]
  simp only [radioPreludeTaskWSync_onto]
  rfl

theorem radioPreludeTaskWFish_onto :
    (a.onto tr).radioPreludeTaskWFish c e = onto tr <$> a.radioPreludeTaskWFish c e := by
  unfold radioPreludeTaskWFish
  rw [map_bind]
  rfl

theorem fishing_onto : (a.onto tr).fishing c e = onto tr <$> a.fishing c e := by
  unfold fishing
  rw [onto_isDone]
  split
  · unfold scheduleFishSlotStart
    rw [map_bind]
    rfl
  · exact radioPreludeTaskWFish_onto c e tr a

theorem syncSlotAfterNonsyncSlot_onto (shouldUndo : Bool) :
    (a.onto tr).syncSlotAfterNonsyncSlot c e shouldUndo =
      onto tr <$> a.syncSlotAfterNonsyncSlot c e shouldUndo := by
  unfold syncSlotAfterNonsyncSlot
  split
  · dsimp only
    rw [undo_onto, map_bind]
    simp only [radioPreludeTaskWSync_onto]
    rfl
  · rfl

theorem merger_onto : (a.onto tr).merger c e = onto tr <$> a.merger c e := by
  unfold merger
  rw [map_bind]
  rfl

theorem bookkeepingAtPreludeToSyncSlot_onto :
    (a.onto tr).bookkeepingAtPreludeToSyncSlot c e =
      onto tr <$> a.bookkeepingAtPreludeToSyncSlot c e := by
  unfold bookkeepingAtPreludeToSyncSlot
  rw [map_bind]
  rfl

theorem bookkeepingAtStartSyncSlot_onto (task : Task) :
    (a.onto tr).bookkeepingAtStartSyncSlot e task =
      onto tr <$> a.bookkeepingAtStartSyncSlot e task := by
  unfold bookkeepingAtStartSyncSlot
  dsimp only
  rw [map_bind]
  rfl

theorem dispatchSyncSlotKind_onto :
    (a.onto tr).dispatchSyncSlotKind c e = onto tr <$> a.dispatchSyncSlotKind c e := by
  unfold dispatchSyncSlotKind
  rw [onto_protocol]
  dsimp only
  cases (a.protocol.decideKind c e).1 with
  | sendControlSync =>
      dsimp only
      rw [map_bind]
      rfl
  | _ => rfl

theorem endListen_onto : (a.onto tr).endListen c e = onto tr <$> a.endListen c e := by
  unfold endListen
  rw [map_bind]
  rfl

theorem sendSync_onto : (a.onto tr).sendSync c e = onto tr <$> a.sendSync c e := by
  unfold sendSync
  rw [map_bind]
  rfl

theorem omitNonsyncSlot_onto :
    (a.onto tr).omitNonsyncSlot c e = onto tr <$> a.omitNonsyncSlot c e :=
  syncSlotAfterSyncSlot_onto c e tr a.undo

theorem tryFishOrMerge_onto :
    (a.onto tr).tryFishOrMerge c e = onto tr <$> a.tryFishOrMerge c e := by
  unfold tryFishOrMerge
  rw [onto_protocol]
  cases a.protocol.role with
  | merger =>
      dsimp only
      split
      · exact merger_onto c e tr a
      · exact omitNonsyncSlot_onto c e tr a
  | fisher =>
      dsimp only
      split
      · exact fishing_onto c e tr { a with protocol := a.protocol.setStartAndEndTimes }
      · exact omitNonsyncSlot_onto c e tr a
  | noFishing => exact omitNonsyncSlot_onto c e tr a

theorem tryUndoAfterSyncing_onto :
    (a.onto tr).tryUndoAfterSyncing = onto tr <$> a.tryUndoAfterSyncing := by
  unfold tryUndoAfterSyncing
  rw [map_bind]
  have h_same : (a.onto tr).shouldUndoAfterSyncing = a.shouldUndoAfterSyncing := rfl
  rw [h_same]
  refine bind_congr fun result => ?_
  cases result <;> rfl

theorem scheduleNonSyncTask_onto :
    (a.onto tr).scheduleNonSyncTask c e = onto tr <$> a.scheduleNonSyncTask c e := by
  unfold scheduleNonSyncTask
  rw [map_bind]
  refine bind_congr fun p => ?_
  rw [map_bind]
  have h_undo := tryUndoAfterSyncing_onto tr { a with protocol := p }
  show (({ a with protocol := p } : Agent).onto tr).tryUndoAfterSyncing >>= _ = _
  rw [h_undo, bind_map_left]
  refine bind_congr fun b => ?_
  rw [onto_protocol]
  cases b.protocol.mode with
  | syncOnly => exact syncSlotAfterSyncSlot_onto c e tr b
  | syncAndFishMerge => exact tryFishOrMerge_onto c e tr b
  | syncAndProvision =>
      dsimp only
      split <;> rfl
  | maintain => rfl

-- ============================================================================
-- Tasks
-- ============================================================================

theorem endSyncSlotListen_onto :
    (a.onto tr).endSyncSlotListen c e = onto tr <$> a.endSyncSlotListen c e := by
  unfold endSyncSlotListen
  rw [endListen_onto, bind_map_left, map_bind]
  exact bind_congr fun b => scheduleNonSyncTask_onto c e tr b

theorem endSyncSlotSend_onto :
    (a.onto tr).endSyncSlotSend c e = onto tr <$> a.endSyncSlotSend c e := by
  unfold endSyncSlotSend
  rw [map_bind, onto_isDone]
  exact bind_congr fun _ => scheduleNonSyncTask_onto c e tr a

theorem startSyncPeriodMaintain_onto :
    (a.onto tr).startSyncPeriodMaintain c e = onto tr <$> a.startSyncPeriodMaintain c e := by
  unfold startSyncPeriodMaintain
  rw [map_bind, onto_isDone]
  refine bind_congr fun _ => ?_
  rw [bookkeepingAtPreludeToSyncSlot_onto, bind_map_left, map_bind]
  refine bind_congr fun a₁ => ?_
  rw [bookkeepingAtStartSyncSlot_onto, bind_map_left, map_bind]
  refine bind_congr fun a₂ => ?_
  rw [onto_protocol]
  split
  · rfl
  · exact radioPreludeTaskWSync_onto c e tr a₂

theorem startSyncSlot_onto (task : Task) :
    (a.onto tr).startSyncSlot c e task = onto tr <$> a.startSyncSlot c e task := by
  unfold startSyncSlot
  rw [map_bind, onto_isDone]
  refine bind_congr fun _ => ?_
  rw [bookkeepingAtStartSyncSlot_onto, bind_map_left, map_bind]
  refine bind_congr fun a₁ => ?_
  rw [onto_protocol]
  split
  · rfl
  · exact dispatchSyncSlotKind_onto c e tr a₁

theorem theRadioPreludeTaskWSync_onto :
    (a.onto tr).theRadioPreludeTaskWSync c e = onto tr <$> a.theRadioPreludeTaskWSync c e :=
  bookkeepingAtPreludeToSyncSlot_onto c e tr ((a.startSyncSlotFromPreludeStart e).doIt e)

theorem fishSlotStart_onto : (a.onto tr).fishSlotStart e = onto tr <$> a.fishSlotStart e := by
  unfold fishSlotStart
  rw [map_bind]
  rfl

theorem syncSlotAfterFishSlot_onto :
    (a.onto tr).syncSlotAfterFishSlot c e = onto tr <$> a.syncSlotAfterFishSlot c e :=
  syncSlotAfterNonsyncSlot_onto c e tr a a.shouldUndoAfterFishing

theorem syncSlotAfterMerging_onto :
    (a.onto tr).syncSlotAfterMerging c e = onto tr <$> a.syncSlotAfterMerging c e :=
  syncSlotAfterNonsyncSlot_onto c e tr a (a.shouldUndoAfterMerging c)

theorem fishSlotEnd_onto : (a.onto tr).fishSlotEnd c e = onto tr <$> a.fishSlotEnd c e := by
  unfold fishSlotEnd
  dsimp only
  rw [map_bind]
  refine bind_congr fun _ => ?_
  rw [map_bind]
  refine bind_congr fun p => ?_
  exact syncSlotAfterFishSlot_onto c e tr { a.stopReceive with protocol := p }

theorem mergerStartAndEnd_onto :
    (a.onto tr).mergerStartAndEnd c e = onto tr <$> a.mergerStartAndEnd c e := by
  unfold mergerStartAndEnd
  rw [map_bind, onto_protocol]
  refine bind_congr fun msg => ?_
  dsimp only
  rw [map_bind]
  refine bind_congr fun p => ?_
  exact syncSlotAfterMerging_onto c e tr { a.sendMessage e msg with protocol := p }

theorem provisionEnd_onto : (a.onto tr).provisionEnd c e = onto tr <$> a.provisionEnd c e :=
  syncSlotAfterNonsyncSlot_onto c e tr a (a.shouldUndoAfterMerging c)

theorem provisionStart_onto :
    (a.onto tr).provisionStart c e = onto tr <$> a.provisionStart c e := by
  unfold provisionStart
  rw [map_bind, onto_isDone]
  refine bind_congr fun _ => ?_
  split
  · rfl
  · exact provisionEnd_onto c e tr a

theorem runTask_onto (task : Task) :
    (a.onto tr).runTask c e task = onto tr <$> a.runTask c e task := by
  cases task with
  | startSyncPeriodMaintain => exact startSyncPeriodMaintain_onto c e tr a
  | theRadioPreludeTaskWSync => exact theRadioPreludeTaskWSync_onto c e tr a
  | theRadioPreludeTaskWFish => rfl
  | startSyncSlotAfterPrelude => exact startSyncSlot_onto c e tr a .startSyncSlotAfterPrelude
  | startSyncSlotWithoutScheduledPrelude =>
      exact startSyncSlot_onto c e tr a .startSyncSlotWithoutScheduledPrelude
  | sendSync => exact sendSync_onto c e tr a
  | endSyncSlotListen => exact endSyncSlotListen_onto c e tr a
  | endSyncSlotSend => exact endSyncSlotSend_onto c e tr a
  | fishSlotStart => exact fishSlotStart_onto e tr a
  | fishSlotEnd => exact fishSlotEnd_onto c e tr a
  | mergerStartAndEnd => exact mergerStartAndEnd_onto c e tr a
  | provisionStart => exact provisionStart_onto c e tr a
  | provisionEnd => exact provisionEnd_onto c e tr a

-- ============================================================================
-- Packets and provisions
-- ============================================================================

theorem handleValidMessage_onto (handler : MessageHandler) (msg : SyncMessage) :
    (a.onto tr).handleValidMessageAndSetContinuation c e handler msg =
      onto tr <$> a.handleValidMessageAndSetContinuation c e handler msg := by
  unfold handleValidMessageAndSetContinuation
  rw [map_bind]
  have h_same : (a.onto tr).handle c e handler msg = a.handle c e handler msg := rfl
  rw [h_same]
  refine bind_congr fun (r, p) => ?_
  dsimp only
  split
  · rfl
  · rw [map_bind]
    rfl

theorem dispatch_onto (handler : MessageHandler) (packet : Option RadioBuffer) :
    (a.onto tr).dispatch c e handler packet = onto tr <$> a.dispatch c e handler packet := by
  cases packet with
  | none => rfl
  | some buffer =>
      unfold dispatch
      dsimp only
      rw [map_bind]
      refine bind_congr fun m => ?_
      cases m with
      | none => rfl
      | some msg => exact handleValidMessage_onto c e tr a handler msg

theorem provisionerSucceed_onto (provision : ProvisionedValue) :
    (a.onto tr).provisionerSucceed c e provision =
      onto tr <$> a.provisionerSucceed c e provision := by
  unfold provisionerSucceed
  rw [map_bind]
  rfl

end Onto

/-- No step reads what was done before. -/
theorem stepAgent_onto (c : Config) (e : Env) (ev : AgentEvent) (tr : List Occurrence)
    (a : Agent) : stepAgent c (a.onto tr) e ev = onto tr <$> stepAgent c a e ev := by
  cases ev with
  | timer task expiry =>
      exact runTask_onto c e tr (a.dequeued e task expiry) task
  | packet received =>
      unfold stepAgent
      dsimp only
      rw [onto_radio]
      cases a.radio with
      | none => rfl
      | some handler =>
          exact dispatch_onto c e tr ({ a with clock := e.now } : Agent).stopReceive handler
            received
  | provisionerSucceed provision =>
      exact provisionerSucceed_onto c e tr { a with clock := e.now } provision
  | provisionerFail => rfl

end Agent

-- ============================================================================
-- Without the noise
-- ============================================================================

/-- A packet that is no valid message. -/
def AgentEvent.isNoise : AgentEvent → Bool
  | .packet received => (Agent.messageOf received).isNone
  | _ => false

/-- The receiver is started, or started again. -/
def Occurrence.startsReceiving (o : Occurrence) : Bool :=
  match o.what with
  | .startReceiving _ => true
  | _ => false

namespace Agent

/-- The unit but for its clock and what it has done. -/
def still (a : Agent) : Agent := { a with clock := 0, trace := [] }

/-- What a unit has done, but for starts of its receiver. -/
def done (a : Agent) : List Occurrence := a.trace.filter fun o => !o.startsReceiving

/-- `b` is in the state of `a` and has done the same, without the noise. -/
structure WithoutNoise (a b : Agent) : Prop where
  still : b.still = a.still
  clock : b.clock ≤ a.clock
  done : b.done = a.done

section Noise

variable {c : Config} {e : Env} {a a' b : Agent} {ev : AgentEvent}

theorem stepAgent_still (c : Config) (e : Env) (ev : AgentEvent) (a : Agent) :
    stepAgent c a e ev = onto a.trace <$> stepAgent c a.still e ev :=
  stepAgent_onto c e ev a.trace a.still

theorem possible_still : ev.Possible a.still e ↔ ev.Possible a e := by
  cases ev <;> exact Iff.rfl

theorem onto_done (tr : List Occurrence) (a : Agent) :
    (a.onto tr).done = a.done ++ tr.filter fun o => !o.startsReceiving :=
  List.filter_append _ _

theorem frames_eq_of_done (a : Agent) : a.frames = a.done.filterMap Occurrence.frame := by
  unfold frames done
  rw [List.filterMap_filter]
  refine List.filterMap_congr fun o _ => ?_
  unfold Occurrence.frame Occurrence.startsReceiving
  cases o.what <;> rfl

theorem WithoutNoise.frames (h : a.WithoutNoise b) : a.frames = b.frames := by
  rw [frames_eq_of_done, frames_eq_of_done, h.done]

/-- What is read as a message is no noise. -/
theorem not_noise_of_read {buffer : RadioBuffer} {msg : SyncMessage}
    (h_read : ofProtocol (Serializer.unserialize buffer) = .ok (some msg)) :
    (AgentEvent.packet (some buffer)).isNoise = false := by
  have h_some := messageOf_some (ofProtocol_eq_ok.1 h_read)
  show (messageOf (some buffer)).isNone = false
  rw [h_some]
  rfl

/-- A packet that is no message starts the receiver again. -/
theorem noise_step (h_possible : ev.Possible a e) (h_noise : ev.isNoise = true)
    (h : stepAgent c a e ev = .ok a') :
    ∃ handler, a' = { a with clock := e.now }.record e (.startReceiving handler) := by
  cases ev with
  | packet received =>
      obtain ⟨handler, h_radio⟩ := Option.ne_none_iff_exists'.1 h_possible.1
      have h_started : (({ a with clock := e.now } : Agent).stopReceive.startReceiving e handler) =
          { a with clock := e.now }.record e (.startReceiving handler) := by
        unfold startReceiving stopReceive record
        rw [← h_radio]
      refine ⟨handler, ?_⟩
      rw [← h_started]
      unfold stepAgent at h
      dsimp only at h
      rw [h_radio] at h
      cases received with
      | none =>
          cases h
          rfl
      | some buffer =>
          unfold dispatch at h
          obtain ⟨m, h_read, h⟩ := bind_eq_ok.1 h
          cases m with
          | none =>
              cases h
              rfl
          | some msg =>
              rw [not_noise_of_read h_read] at h_noise
              cases h_noise
  | _ => cases h_noise

theorem unserialize_eq_error {buffer : RadioBuffer} {flt : Fault}
    (h : Serializer.unserialize buffer = .error flt) : flt = .deltaSyncRange := by
  unfold Serializer.unserialize at h
  dsimp only at h
  split at h
  · split at h
    · exact (Except.error.inj h).symm
    · cases h
  · cases h

/-- The one assertion that such a packet can stop the unit at: its type is valid, and
    its offset is not. -/
theorem noise_stops {flt : TaskFault} (h_noise : ev.isNoise = true)
    (h : stepAgent c a e ev = .error flt) : flt = .protocol .deltaSyncRange := by
  cases ev with
  | packet received =>
      unfold stepAgent at h
      dsimp only at h
      cases h_radio : a.radio with
      | none =>
          rw [h_radio] at h
          cases h
      | some handler =>
          rw [h_radio] at h
          cases received with
          | none => cases h
          | some buffer =>
              unfold dispatch at h
              rcases bind_eq_error.1 h with h_read | ⟨m, h_read, h⟩
              · obtain ⟨flt', rfl, h_flt'⟩ := ofProtocol_eq_error.1 h_read
                rw [unserialize_eq_error h_flt']
              · cases m with
                | none => cases h
                | some msg =>
                    rw [not_noise_of_read h_read] at h_noise
                    cases h_noise
  | _ => cases h_noise

theorem WithoutNoise.erased (h : a.WithoutNoise b) (h_clock : a.clock ≤ e.now)
    (h_possible : ev.Possible a e) (h_noise : ev.isNoise = true)
    (h_step : stepAgent c a e ev = .ok a') : a'.WithoutNoise b := by
  obtain ⟨handler, rfl⟩ := noise_step h_possible h_noise h_step
  exact ⟨h.still, Nat.le_trans h.clock h_clock, h.done⟩

/-- What the unit does at an event depends on neither. -/
theorem WithoutNoise.kept (h : a.WithoutNoise b) (h_step : stepAgent c a e ev = .ok a') :
    ∃ b', stepAgent c b e ev = .ok b' ∧ a'.WithoutNoise b' := by
  rw [stepAgent_still] at h_step
  obtain ⟨r, h_r, rfl⟩ := map_eq_ok.1 h_step
  refine ⟨r.onto b.trace, ?_, rfl, Nat.le_refl _, ?_⟩
  · rw [stepAgent_still, h.still]
    exact map_eq_ok.2 ⟨r, h_r, rfl⟩
  · rw [onto_done, onto_done]
    exact congrArg (r.done ++ ·) h.done

theorem WithoutNoise.stops {flt : TaskFault} (h : a.WithoutNoise b)
    (h_step : stepAgent c a e ev = .error flt) : stepAgent c b e ev = .error flt := by
  rw [stepAgent_still] at h_step ⊢
  rw [h.still]
  exact map_eq_error.2 (map_eq_error.1 h_step)

/-- A unit does the same without the noise. -/
theorem agentSystem_erases (c : Config) :
    Erases (agentSystem c) (agentSystem c) (fun l => l.2.isNoise) WithoutNoise where
  init a h_init := ⟨h_init, rfl, Nat.le_refl _, rfl⟩
  erased a b l a' h h_en h_step h_noise := h.erased h_en.1 h_en.2 h_noise h_step
  enabled a b l h h_en _ := by
    refine ⟨Nat.le_trans h.clock h_en.1, ?_⟩
    rw [← possible_still, h.still, possible_still]
    exact h_en.2
  kept a b l a' h h_step _ := h.kept h_step
  stops a b l flt h h_step _ := h.stops h_step

end Noise

end Agent

-- ============================================================================
-- A noisy channel
-- ============================================================================

namespace Units

variable {ι : Type} {u : Units ι} {zero : ι → ℤ}

/-- The units on a channel that others use too: a unit can also receive any packet
    that is no message of the protocol. -/
def noisyStations (u : Units ι) (zero : ι → ℤ) :
    Stations ι Agent (Env × AgentEvent) Frame TaskFault :=
  { u.stations zero with deaf := fun l => (u.stations zero).deaf l ∨ l.2.isNoise = true }

variable [DecidableEq ι] {w : (ι → Agent) × List (AirMove ι)}

/-- Noise changes nothing.  For every run on a noisy channel there is one on the
    channel without noise, with all other tasks, packets and provisions in the same
    order.  Each unit ends in the same state, and has done the same, but for its
    clock and starts of its receiver; the same assertions stop it.  Noise itself can
    only stop a unit at the assertion about the offset in it. -/
theorem noise_erased (h : (u.noisyStations zero).air.recorded.Reachable w) :
    ∃ v, (u.stations zero).air.recorded.Reachable v ∧
      v.2.map Move.label = (w.2.map Move.label).filter (fun l => !l.2.2.isNoise) ∧
      (∀ i, (v.1 i).still = (w.1 i).still ∧ (v.1 i).done = (w.1 i).done ∧
        (v.1 i).frames = (w.1 i).frames) ∧
      ∀ l flt, (u.noisyStations zero).air.enabled w.1 l →
        (u.noisyStations zero).air.step w.1 l = .error flt →
          if l.2.2.isNoise then flt = .protocol .deltaSyncRange
          else (u.stations zero).air.enabled v.1 l ∧
            (u.stations zero).air.step v.1 l = .error flt := by
  have h_erases : Erases (u.noisyStations zero).air (u.stations zero).air
      (fun l => l.2.2.isNoise) fun s t => ∀ i, (s i).WithoutNoise (t i) := by
    have h_unit : ∀ i, Erases ((u.noisyStations zero).station i) ((u.stations zero).station i)
        (fun l => l.2.isNoise) Agent.WithoutNoise :=
      fun i => Agent.agentSystem_erases (u.config i)
    refine Erases.air h_unit ?_ ?_ ?_
    · intro i a b h_without
      exact h_without.frames
    · rintro l h_noise (h_deaf | h_not)
      · exact h_deaf
      · rw [h_noise] at h_not
        cases h_not
    · exact fun j i f l h_arrives => h_arrives
  obtain ⟨v, h_v, h_without, h_labels⟩ := h_erases.recorded h
  refine ⟨v, h_v, h_labels, fun i => ⟨(h_without i).still, (h_without i).done, ?_⟩, ?_⟩
  · exact (h_without i).frames.symm
  · intro l flt h_en h_stops
    split
    · rename_i h_noise
      exact Agent.noise_stops h_noise (bind_return_eq_error.1 h_stops)
    · rename_i h_not
      have h_noise := eq_false_of_ne_true h_not
      exact ⟨h_erases.enabled w.1 v.1 l h_without h_en h_noise,
        h_erases.stops w.1 v.1 l flt h_without h_stops h_noise⟩

instance (l : Env × AgentEvent) : Decidable ((u.noisyStations zero).deaf l) :=
  inferInstanceAs (Decidable ((u.stations zero).deaf l ∨ l.2.isNoise = true))

instance (j i : ι) (f : Frame) (l : Env × AgentEvent) :
    Decidable ((u.noisyStations zero).arrives j i f l) :=
  inferInstanceAs (Decidable ((u.stations zero).arrives j i f l))

instance (i : ι) (a : Agent) (l : Env × AgentEvent) :
    Decidable (((u.noisyStations zero).station i).enabled a l) :=
  inferInstanceAs (Decidable ((agentSystem (u.config i)).enabled a l))

/-- The first sync slot of units five and three, in which five also receives a packet
    with a wrong check sum and one without a type. -/
def hearsThreeInNoise : List (Fin 2 × (Env × AgentEvent)) :=
  fiveHearsThree.take 6 ++
    [(five, (arriving 80005, .packet none)),
      (five, (arriving 80010, .packet (some Serializer.emptyBuffer)))] ++
    fiveHearsThree.drop 6

theorem noise_erased_hearsThreeInNoise :
    ∃ w v, (fiveAndThree.noisyStations 0).air.recorded.Reachable w ∧ w.2.length = 10 ∧
      (fiveAndThree.stations 0).air.recorded.Reachable v ∧ v.2.length = 8 ∧
      (v.1 0).still = (w.1 0).still := by
  obtain ⟨w, h, h_all, h_kept⟩ :=
    System.Reachable.exists_of_play (M := (fiveAndThree.noisyStations 0).air.recorded)
      (P := fun w => w.2.length = 10 ∧
        ((w.2.map Move.label).filter fun l => !l.2.2.isNoise).length = 8) hearsThreeInNoise
      (show (fiveAndThree.noisyStations 0).air.recorded.init
        (fun i => Agent.boot (fiveAndThree.config i) 0 0, []) from
          ⟨fun i => ⟨0, 0, Nat.le_refl _, rfl⟩, rfl⟩)
      (by decide +kernel)
  obtain ⟨v, h_v, h_labels, h_same, -⟩ := noise_erased h
  have h_length : v.2.length = 8 := by
    rw [← List.length_map, h_labels]
    exact h_kept
  exact ⟨w, v, h, h_all, h_v, h_length, (h_same 0).1⟩

end Units

end SleepSync
