/-
  SleepSync.AirAgreement

  The sync points of a clique, over whole runs.

  A unit that follows `k` has adopted a sync message that names `k`, from `k` or
  from any other unit of the clique, whose offset was to the sender's own sync
  point.  So if the sync points of all units of the clique are in phase when it
  is sent, they are after it was heard, whichever unit sent it and however late
  it is used.  The phase itself is that of unit `k`, which moves only when the
  clique scatters, or when `k` joins a better clique.
-/

import SleepSync.AirElection
import SleepSync.Agreement
import SleepSync.ControlSources

namespace SleepSync

open Lib ScheduleParameters PhysicalParameters

-- ============================================================================
-- The phase of one unit
-- ============================================================================

/-- Sync points a whole number of periods apart. -/
abbrev InPhase (x y : ℤ) : Prop := x ≡ y [ZMOD normalSyncPeriodDuration]

theorem Schedule.rollPeriodForward_inPhase (s : Schedule) :
    InPhase s.rollPeriodForward.timeOfNextSyncPoint s.timeOfNextSyncPoint :=
  Schedule.iterate_rollPeriodForward_modEq s 1

namespace Protocol

/-- What an event does to the sync points and the master of a unit: `heard` is the
    message it handles, if any. -/
inductive PhaseChange (c : Config) (e : Env) (heard : Option SyncMessage) (p p' : Protocol) :
    Prop
  | kept (h_master : p'.masterID = p.masterID)
      (h_phase : InPhase p'.schedule.timeOfNextSyncPoint p.schedule.timeOfNextSyncPoint)
  | joined {msg : SyncMessage} (h_heard : heard = some msg)
      (h_type : msg.type = .masterSync ∨ msg.type = .workSync)
      (h_le : msg.masterID ≤ p.masterID) (h_master : p'.masterID = msg.masterID)
      (h_phase : InPhase p'.schedule.timeOfNextSyncPoint
        (Schedule.adjustedEventTimeFromMsg msg e.timeOfArrival))
  /-- the unit is its own master, again or still -/
  | own (h_own : p'.masterID = c.id) (h_stays : p.isSelfMaster c = true →
      InPhase p'.schedule.timeOfNextSyncPoint p.schedule.timeOfNextSyncPoint)
  /-- a master scatters when it has announced that often enough -/
  | scattered (h_master : p.isSelfMaster c = true)
      (h_callback : p.intraClique.repeater.onDoneCallback = .onDoneScatter)
      (h_own : p'.masterID = c.id)

section Phase

variable {c : Config} {e : Env} {p p' : Protocol} {ev : ProtocolEvent} {msg : SyncMessage}

theorem PhaseChange.of_same {heard : Option SyncMessage} (h_master : p'.masterID = p.masterID)
    (h_schedule : p'.schedule = p.schedule) : PhaseChange c e heard p p' := by
  refine PhaseChange.kept h_master ?_
  rw [h_schedule]

theorem PhaseChange.of_adopted {s : Schedule}
    (h_type : msg.type = .masterSync ∨ msg.type = .workSync) (h_le : msg.masterID ≤ p.masterID)
    (h_adjust : p.schedule.adjustBySyncMsg msg e.timeOfArrival = .ok s)
    (h_master : p'.masterID = msg.masterID) (h_schedule : p'.schedule = s) :
    PhaseChange c e (some msg) p p' := by
  refine PhaseChange.joined rfl h_type h_le h_master ?_
  rw [h_schedule]
  exact Schedule.adjustBySyncMsg_modEq h_adjust

theorem SyncSlotHeard.phase (h : SyncSlotHeard c e p msg p') :
    PhaseChange c e (some msg) p p' := by
  cases h with
  | joined h_adopts h_adjust =>
      obtain ⟨h_type, h_keeps⟩ := adoptsInSyncSlot_iff.1 h_adopts
      exact PhaseChange.of_adopted h_type (masterID_le_of_keeps h_keeps) h_adjust rfl rfl
  | scattered _ _ h_slave =>
      refine PhaseChange.own rfl fun h_master => ?_
      rw [h_slave] at h_master
      cases h_master
  | assumed => exact PhaseChange.own rfl fun _ => Int.ModEq.refl _
  | enticed => exact PhaseChange.of_same rfl rfl
  | other => exact PhaseChange.of_same rfl rfl

theorem FishSlotHeard.phase (h : FishSlotHeard c e p msg p') :
    PhaseChange c e (some msg) p p' := by
  cases h with
  | mergesMy _ _ h_adopts _ h_adjust =>
      obtain ⟨h_type, h_better⟩ := adoptsInFishSlot_iff.1 h_adopts
      have h_le := masterID_le_of_keeps (Or.inr h_better)
      exact PhaseChange.of_adopted h_type h_le h_adjust rfl rfl
  | caughtDeep _ h_adopts h_adjust =>
      obtain ⟨h_type, h_better⟩ := adoptsInFishSlot_iff.1 h_adopts
      have h_le := masterID_le_of_keeps (Or.inr h_better)
      exact PhaseChange.of_adopted h_type h_le h_adjust rfl rfl
  | mergesOther => exact PhaseChange.of_same rfl rfl
  | kept => exact PhaseChange.of_same rfl rfl

theorem ListenEnded.phase (h_first : p.history.recordMasterID 0 = c.id)
    (h : ListenEnded c e p p') : PhaseChange c e none p p' := by
  have h_slaves : ∀ {x : ℤ}, p.isSelfMaster c = false → p.isSelfMaster c = true →
      InPhase x p.schedule.timeOfNextSyncPoint := by
    intro x h_slave h_master
    rw [h_slave] at h_master
    cases h_master
  cases h with
  | asMaster => exact PhaseChange.of_same rfl rfl
  | missed => exact PhaseChange.of_same rfl rfl
  | grabbed h_slave => exact PhaseChange.own rfl (h_slaves h_slave)
  | reverted h_slave _ h_pop =>
      exact PhaseChange.own ((CliqueHistory.pop_first h_pop).trans h_first) (h_slaves h_slave)

theorem FishingChecked.phase (h : FishingChecked c p p') : PhaseChange c e none p p' := by
  cases h with
  | goesOn => exact PhaseChange.of_same rfl rfl
  | @finished callback _ _ _ =>
      cases callback with
      | endWithNoAction => exact PhaseChange.of_same rfl rfl
      | endWithRecoverMaster => exact PhaseChange.own rfl fun _ => Int.ModEq.refl _

/-- The start of a sync slot moves the sync points only where the clique's master
    scatters it. -/
theorem dispatch_scatters (h : stepProtocol c p e .dispatchSyncSlotKind = .ok p') :
    (p'.schedule = p.schedule ∧ p'.masterID = p.masterID) ∨
      (p.isSelfMaster c = true ∧ p.intraClique.repeater.onDoneCallback = .onDoneScatter ∧
        p'.masterID = c.id ∧ p'.intraClique.repeater.onDoneCallback = .onDoneScatter) := by
  by_cases h_control : (p.decideKind c e).1 = .sendControlSync
  · rcases dispatch_control h_control h with ⟨-, rfl⟩ | ⟨-, h_done⟩
    · exact Or.inl ⟨rfl, rfl⟩
    · cases h_callback : p.intraClique.repeater.onDoneCallback with
      | onDoneGranularityWithAction =>
          rw [h_callback] at h_done
          obtain ⟨-, h_set⟩ := require_bind_eq_ok.1 h_done
          cases h_set
          obtain ⟨g, x, h_eq⟩ := trySetGranularity_eq p.finished p.finished.intraClique.granularity
          rw [h_eq]
          exact Or.inl ⟨rfl, rfl⟩
      | onDoneRepeatingUpstream =>
          rw [h_callback] at h_done
          obtain ⟨-, h_same⟩ := require_bind_eq_ok.1 h_done
          cases h_same
          exact Or.inl ⟨rfl, rfl⟩
      | onDoneScatter =>
          rw [h_callback] at h_done
          obtain ⟨h_master, h_scatter⟩ := require_bind_eq_ok.1 h_done
          obtain ⟨f, s, -, -, rfl⟩ := scatterSync_eq_ok.1 h_scatter
          exact Or.inr ⟨h_master, rfl, rfl, h_callback⟩
  · rw [dispatch_other h_control h]
    exact Or.inl ⟨rfl, rfl⟩

theorem dispatch_phase (h : stepProtocol c p e .dispatchSyncSlotKind = .ok p') :
    PhaseChange c e none p p' := by
  rcases dispatch_scatters h with ⟨h_schedule, h_master⟩ | ⟨h_master, h_callback, h_own, -⟩
  · exact PhaseChange.of_same h_master h_schedule
  · exact PhaseChange.scattered h_master h_callback h_own

/-- Every completed event is such a change. -/
theorem stepProtocol_phase (h_first : p.history.recordMasterID 0 = c.id)
    (h : stepProtocol c p e ev = .ok p') : PhaseChange c e ev.heard p p' := by
  cases stepProtocol_done h with
  | rolled => exact PhaseChange.kept rfl (p.schedule.rollPeriodForward_inPhase)
  | heard h_heard => exact h_heard.phase
  | fished h_fished => exact h_fished.phase
  | decided => exact dispatch_phase h
  | scattered => exact dispatch_phase h
  | listened h_ended => exact h_ended.phase h_first
  | checked h_checked => exact h_checked.phase
  | _ => exact PhaseChange.of_same rfl rfl

end Phase

/-- What is being announced is not that the clique scatters. -/
abbrev StaysTogether (p : Protocol) : Prop := p.AnnouncesOnly (· ≠ 1)

end Protocol

-- ============================================================================
-- The units of a clique
-- ============================================================================

/-- The task that transmits in the sync slot runs. -/
def AgentEvent.isSendSync : AgentEvent → Bool
  | .timer .sendSync _ => true
  | _ => false

namespace Units

variable {ι : Type} {u : Units ι} {zero : ι → ℤ} {k i : ι} {φ : ℤ}

/-- A sync message is on the air before the sync point that its offset is to. -/
def SendsInTime (u : Units ι) (s : ι → Agent) (l : ι × (Env × AgentEvent)) : Prop :=
  l.2.2.isSendSync = true → l.2.1.now + sendLatency (u.config l.1).platform ≤
    (s l.1).protocol.schedule.timeOfNextSyncPoint

/-- Unit `k` hears no sync message of a better clique. -/
def HearsNoBetter (u : Units ι) (k : ι) (l : ι × (Env × AgentEvent)) : Prop :=
  l.1 = k → ∀ msg ∈ l.2.2.message, msg.type = .masterSync ∨ msg.type = .workSync →
    (u.config k).id ≤ msg.masterID

/-- Nobody tells unit `k` that its clique scatters: no unit of the clique, and no
    provisioner. -/
def NotToldToScatter (u : Units ι) (k : ι) (l : ι × (Env × AgentEvent)) : Prop :=
  l.1 = k →
    (∀ msg ∈ l.2.2.message, msg.type = .controlScatterClique →
      msg.masterID ≠ (u.config k).id) ∧
      ∀ provision ∈ l.2.2.provisioned, provision.index ≠ 1

/-- The steps in which clique `k` stays in sync. -/
def KeepsTogether (u : Units ι) (k : ι) (s : ι → Agent) (l : ι × (Env × AgentEvent)) : Prop :=
  u.SendsInTime s l ∧ u.HearsNoBetter k l ∧ u.NotToldToScatter k l

instance (u : Units ι) (s : ι → Agent) (l : ι × (Env × AgentEvent)) :
    Decidable (u.SendsInTime s l) :=
  inferInstanceAs (Decidable (_ → _))

instance [DecidableEq ι] (u : Units ι) (k : ι) (l : ι × (Env × AgentEvent)) :
    Decidable (u.HearsNoBetter k l) :=
  inferInstanceAs (Decidable (_ → _))

instance [DecidableEq ι] (u : Units ι) (k : ι) (l : ι × (Env × AgentEvent)) :
    Decidable (u.NotToldToScatter k l) :=
  inferInstanceAs (Decidable (_ → _ ∧ _))

/-- What holds of a unit, if the sync points of clique `k` are in phase with `φ`. -/
structure InClique (u : Units ι) (zero : ι → ℤ) (k : ι) (φ : ℤ) (i : ι) (p : Protocol) :
    Prop where
  follows : u.Follows i p
  phase : p.masterID = (u.config k).id → InPhase (zero i + p.schedule.timeOfNextSyncPoint) φ
  head : i = k → p.masterID = (u.config k).id ∧ p.StaysTogether

/-- The time of a common clock that frame `f` of unit `i` announces with `msg`. -/
def announced (u : Units ι) (zero : ι → ℤ) (i : ι) (f : Frame) (msg : SyncMessage) : ℤ :=
  zero i + f.sentAt + sendLatency (u.config i).platform + msg.deltaToNextSyncPoint.get

/-- What holds of a frame on the air: what carries sync names a unit, and what names
    `k` announces a sync point of the clique. -/
structure Announces (u : Units ι) (zero : ι → ℤ) (k : ι) (φ : ℤ) (i : ι) (f : Frame) : Prop where
  names : ∀ msg, Serializer.unserialize f.buffer = .ok (some msg) → u.NamesUnit msg
  phase : ∀ msg, Serializer.unserialize f.buffer = .ok (some msg) →
    msg.type = .masterSync ∨ msg.type = .workSync → msg.masterID = (u.config k).id →
      InPhase (u.announced zero i f msg) φ

/-- What a receiver computes is what the frame announces. -/
theorem HeardFrom.announced {e : Env} {msg : SyncMessage} {j : ι} {f : Frame}
    (h : u.HeardFrom zero i e msg j f) :
    zero i + (Schedule.adjustedEventTimeFromMsg msg e.timeOfArrival : ℤ) =
      u.announced zero j f msg := by
  unfold Schedule.adjustedEventTimeFromMsg Units.announced
  rw [Nat.cast_add, ← add_assoc, h.arrival]

theorem InClique.booted (u : Units ι) (zero : ι → ℤ) (k i : ι) (initTime loopTime : Nat)
    (h_φ : i = k → φ = zero k + (Protocol.boot (u.config k) initTime
      loopTime).schedule.timeOfNextSyncPoint) :
    u.InClique zero k φ i (Protocol.boot (u.config i) initTime loopTime) where
  follows := Follows.booted i initTime loopTime
  phase h_master := by
    obtain rfl : i = k := u.id_injective h_master
    rw [h_φ rfl]
  head h_i := by
    subst h_i
    exact ⟨rfl, Protocol.AnnouncesOnly.booted _ _ _ _⟩

/-- What an event of a unit of the air keeps. -/
theorem InClique.step {e : Env} {ev : AgentEvent} {event : ProtocolEvent} {p p' : Protocol}
    (h : u.InClique zero k φ i p) (h_better : u.HearsNoBetter k (i, (e, ev)))
    (h_told : u.NotToldToScatter k (i, (e, ev)))
    (h_part : Agent.PartOf ev event)
    (h_heard : ∀ msg ∈ event.heard, ∃ j f, u.Announces zero k φ j f ∧
      u.HeardFrom zero i e msg j f)
    (h_step : stepProtocol (u.config i) p e event = .ok p') : u.InClique zero k φ i p' := by
  have h_follows : u.Follows i p' := by
    refine h.follows.step (l := (e, event)) (fun msg h_msg => ?_) h_step
    obtain ⟨j, f, h_frame, h_from⟩ := h_heard msg h_msg
    exact h_frame.names msg h_from.read
  have h_together : i = k → p'.StaysTogether := by
    intro h_i
    obtain ⟨h_master, h_stays⟩ := h.head h_i
    subst h_i
    refine h_stays.step (fun n h_asks => ?_) h_step
    cases h_asks with
    | @heard msg n h_tells h_mine =>
        rintro rfl
        cases h_tells with
        | scatter h_type =>
            rw [h_type] at h_mine
            rcases h_mine with h_not | h_mine
            · cases h_not
            · have h_id : msg.masterID = (u.config i).id :=
                (of_decide_eq_true h_mine).symm.trans h_master
              exact (h_told rfl).1 msg (h_part.heard msg rfl) h_type h_id
    | @provisioned provision => exact (h_told rfl).2 provision h_part.provisioned
  refine ⟨h_follows, ?_, ?_⟩
  · intro h_k
    cases Protocol.stepProtocol_phase h.follows.firstRecord h_step with
    | kept h_master h_phase =>
        exact (h_phase.add_left _).trans (h.phase (h_master.symm.trans h_k))
    | @joined msg h_msg h_type h_le h_master h_phase =>
        obtain ⟨j, f, h_frame, h_from⟩ := h_heard msg h_msg
        refine (h_phase.add_left _).trans ?_
        rw [h_from.announced]
        exact h_frame.phase msg h_from.read h_type (h_master.symm.trans h_k)
    | own h_own h_stays =>
        obtain rfl : i = k := u.id_injective (h_own.symm.trans h_k)
        have h_master := (h.head rfl).1
        exact ((h_stays (decide_eq_true h_master)).add_left _).trans (h.phase h_master)
    | scattered h_master h_callback h_own =>
        obtain rfl : i = k := u.id_injective (h_own.symm.trans h_k)
        exact absurd rfl ((h.head rfl).2.onDoneScatter h_callback)
  · intro h_i
    refine ⟨?_, h_together h_i⟩
    obtain ⟨h_master, h_stays⟩ := h.head h_i
    cases Protocol.stepProtocol_phase h.follows.firstRecord h_step with
    | kept h_same => exact h_same.trans h_master
    | @joined msg h_msg h_type h_le h_same =>
        subst h_i
        have h_ge := h_better rfl msg (h_part.heard msg h_msg) h_type
        rw [h_same]
        exact Nat.le_antisymm (h_master ▸ h_le) h_ge
    | own h_own => exact h_own.trans (h_i ▸ rfl)
    | scattered _ _ h_own => exact h_own.trans (h_i ▸ rfl)

/-- A unit that is about to send is in its period. -/
theorem sendSync_inPeriod {c : Config} {a : Agent} {e : Env} {x : Nat}
    (h : (agentSystem c).Reachable a) (h_en : (agentSystem c).enabled a (e, .timer .sendSync x)) :
    a.protocol.schedule.InBounds ∧ a.protocol.schedule.startTimeOfSyncPeriod ≤ e.now := by
  have h_one := agentSystem_oneTask h.guarded_true
  obtain ⟨h_clock, h_pending, -⟩ := h_en
  have h_waits := (agentSystem_periodKept h).waiting _ _ (h_one.pending_eq h_pending)
  refine ⟨?_, Nat.le_trans h_waits.start h_clock⟩
  rcases h_waits.bounds with h_bounds | h_first
  · exact h_bounds
  · cases h_first

/-- What a unit of the air transmits. -/
theorem InClique.transmits {s : ι → Agent} {e : Env} {ev : AgentEvent} {msg : SyncMessage}
    (h : u.InClique zero k φ i (s i).protocol) (h_reach : (agentSystem (u.config i)).Reachable (s i))
    (h_en : (agentSystem (u.config i)).enabled (s i) (e, ev))
    (h_time : u.SendsInTime s (i, (e, ev)))
    (h_transmits : (s i).Transmits (u.config i) e ev msg) :
    u.Announces zero k φ i ⟨e.now, bufferOf msg⟩ := by
  have h_names : u.NamesUnit msg := by
    intro h_carries
    obtain ⟨j, h_j⟩ := h.follows.masterID_mem
    exact ⟨j, (h_transmits.masterID h.follows.kindOfMerger h_carries).trans h_j⟩
  refine ⟨fun msg' h_read => h_names.read h_read, ?_⟩
  intro msg' h_read h_type h_k
  obtain ⟨h_sent, h_offset, -, h_master⟩ :=
    Serializer.read_bufferOf h_read (Protocol.doesCarrySync_of_type h_type)
  have h_carries : msg.type.doesCarrySync = true := by
    rw [h_sent]
    exact Protocol.doesCarrySync_of_type h_type
  have h_own := h_transmits.masterID h.follows.kindOfMerger h_carries
  obtain ⟨j, h_j⟩ := h.follows.masterID_mem
  have h_fits : msg.masterID < 2 ^ 48 := by
    rw [h_own, h_j]
    exact u.id_lt j
  have h_clique : (s i).protocol.masterID = (u.config k).id :=
    (h_own.symm.trans (h_master h_fits)).trans h_k
  cases h_transmits with
  | inMergeSlot h_msg =>
      obtain ⟨-, h_kind, -⟩ := Protocol.makeMergeMsg_eq_ok h_msg
      rw [h_kind, h.follows.kindOfMerger] at h_carries
      cases h_carries
  | inSyncSlot h_msg =>
      obtain ⟨t, work, -, h_init⟩ := Agent.syncSlotMessage_eq_ok h_msg
      have h_get := (Protocol.initSyncMessage_eq_ok h_init).2.2.2
      obtain ⟨h_bounds, h_start⟩ := sendSync_inPeriod h_reach h_en
      rw [Protocol.syncOffset_eq h_bounds h_start, h_offset] at h_get
      have h_left : e.now + sendLatency (u.config i).platform ≤
          (s i).protocol.schedule.timeOfNextSyncPoint := h_time rfl
      have h_announced : u.announced zero i ⟨e.now, bufferOf msg⟩ msg' =
          zero i + (s i).protocol.schedule.timeOfNextSyncPoint := by
        unfold announced
        rw [h_get]
        dsimp only
        omega
      rw [h_announced]
      exact h.phase h_clique

variable [DecidableEq ι] {w : ι → Agent}

instance (s : ι → Agent) (l : ι × (Env × AgentEvent)) : Decidable (u.KeepsTogether k s l) :=
  inferInstanceAs (Decidable (_ ∧ _ ∧ _))

/-- The next sync point of a unit, by a common clock. -/
def syncPoint (zero : ι → ℤ) (w : ι → Agent) (i : ι) : ℤ :=
  zero i + (w i).protocol.schedule.timeOfNextSyncPoint

theorem air_inClique (h : ((u.stations zero).air.guarded (u.KeepsTogether k)).Reachable w) :
    ∃ φ, ∀ i, u.InClique zero k φ i (w i).protocol ∧
      ∀ f ∈ (w i).frames, u.Announces zero k φ i f := by
  obtain ⟨w₀, h_init, h_run⟩ := h
  refine ⟨syncPoint zero w₀ k, ?_⟩
  refine air_keeps (u.InClique zero k (syncPoint zero w₀ k))
    (u.Announces zero k (syncPoint zero w₀ k)) (System.Reachable.start h_init) h_run ?_ ?_ ?_
  · intro i
    obtain ⟨initTime, loopTime, -, h_boot⟩ := h_init i
    rw [h_boot]
    refine ⟨InClique.booted u zero k i initTime loopTime ?_, fun f h_f => ?_⟩
    · rintro rfl
      unfold syncPoint
      rw [h_boot]
      rfl
    · cases h_f
  · intro i s e ev p event p' h_ok h_part h_p _ h_heard h_step
    exact h_p.step h_ok.2.1 h_ok.2.2 h_part h_heard h_step
  · intro i s e ev msg h_ok h_p h_reach h_en h_transmits
    exact h_p.transmits h_reach h_en h_ok.1 h_transmits

/-- A clique agrees.  In every run in which unit `k` hears no better clique and is not
    told to scatter, and messages are sent in time, it is its own master, and the
    sync points of every unit that follows it are a whole number of periods from its
    own. -/
theorem air_clique_agrees
    (h : ((u.stations zero).air.guarded (u.KeepsTogether k)).Reachable w) :
    (w k).protocol.isSelfMaster (u.config k) = true ∧
      ∀ i, (w i).protocol.masterID = (u.config k).id →
        syncPoint zero w i ≡ syncPoint zero w k [ZMOD normalSyncPeriodDuration] := by
  obtain ⟨φ, h_all⟩ := air_inClique h
  have h_master := ((h_all k).1.head rfl).1
  refine ⟨decide_eq_true h_master, fun i h_i => ?_⟩
  exact ((h_all i).1.phase h_i).trans ((h_all k).1.phase h_master).symm

/-- Unit five in the clique of unit three. -/
theorem air_clique_agrees_fiveHearsThree :
    ∃ w, ((fiveAndThree.stations 0).air.guarded (fiveAndThree.KeepsTogether 1)).Reachable w ∧
      (w 0).protocol.masterID = 3 ∧
        syncPoint 0 w 0 ≡ syncPoint 0 w 1 [ZMOD normalSyncPeriodDuration] := by
  obtain ⟨w, h, h_master⟩ :=
    System.Reachable.exists_of_play
      (M := (fiveAndThree.stations 0).air.guarded (fiveAndThree.KeepsTogether 1))
      (P := fun w => (w 0).protocol.masterID = 3) fiveHearsThree
      (show (fiveAndThree.stations 0).air.init
        (fun i => Agent.boot (fiveAndThree.config i) 0 0) from
          fun i => ⟨0, 0, Nat.le_refl _, rfl⟩)
      (by decide +kernel)
  exact ⟨w, h, h_master, (air_clique_agrees h).2 0 h_master⟩

end Units

end SleepSync
