/-
  SleepSync.AirWork

  The work that the units of a clique pass on to each other.

  The app of a unit is told of work when the unit hears a work sync of its own
  clique in its sync slot.  What it is told is what the app of the sender had put
  in its mailbox, unaltered, and the sender was in the same clique when it sent
  it.  A unit that has heard work listens no more in that period, and in the next
  one only to what arrives after it has begun; so a transmission brings its work
  to a unit once at most.
-/

import SleepSync.AirAgreement
import SleepSync.DutyCycle
import SleepSync.ProvisioningRelay

namespace SleepSync

open Lib ScheduleParameters

def AppCall.isWork : AppCall → Bool
  | .onWorkMsg _ => true
  | _ => false

/-- The step tells the app of work. -/
def tellsWork (c : Config) (a : Agent) (ev : AgentEvent) : Bool :=
  (callsOfStep c a ev).any AppCall.isWork

-- ============================================================================
-- The unit that hears work
-- ============================================================================

namespace Agent

variable {c : Config} {e : Env} {a a' : Agent} {ev : AgentEvent} {v : Payload}

/-- A work sync of the own clique, heard in the sync slot. -/
structure HearsWork (a : Agent) (ev : AgentEvent) (msg : SyncMessage) : Prop where
  message : ev.message = some msg
  radio : a.radio = some .syncSlot
  type : msg.type = .workSync
  mine : msg.masterID = a.protocol.masterID

theorem work_of_mem (h : .onWorkMsg v ∈ callsOfStep c a ev) :
    ∃ msg, a.HearsWork ev msg ∧ msg.work = v := by
  cases ev with
  | timer t x =>
      have h_call : AppCall.onWorkMsg v ∈ if t.keepsBooks then [AppCall.onSyncPoint] else [] := h
      split at h_call
      · cases List.mem_singleton.1 h_call
      · cases h_call
  | packet packet =>
      simp only [callsOfStep] at h
      split at h
      · rename_i msg h_radio h_msg
        unfold callsOfMessage at h
        split at h
        · rename_i h_type
          split at h
          · rename_i h_mine
            cases List.mem_singleton.1 h
            exact ⟨msg, ⟨h_msg, h_radio, h_type, (of_decide_eq_true h_mine).symm⟩, rfl⟩
          · cases h
        · split at h
          · cases List.mem_singleton.1 h
          · cases h
        · split at h
          · cases List.mem_singleton.1 h
          · cases h
        · cases h
      · cases h
  | provisionerSucceed provision =>
      have h_call : AppCall.onWorkMsg v ∈ callsOfProvision c a.protocol provision := h
      unfold callsOfProvision at h_call
      split at h_call
      · split at h_call
        · cases List.mem_singleton.1 h_call
        · cases List.mem_singleton.1 h_call
        · cases h_call
      · cases h_call
  | provisionerFail => cases h

theorem hearsWork_of_tells (h : tellsWork c a ev = true) : ∃ msg, a.HearsWork ev msg := by
  obtain ⟨call, h_call, h_work⟩ := List.any_eq_true.1 h
  cases call with
  | onWorkMsg v =>
      obtain ⟨msg, h_hears, -⟩ := work_of_mem h_call
      exact ⟨msg, h_hears⟩
  | _ => cases h_work

/-- A message of the own clique passes the filter. -/
theorem filterSyncMsg_mine {p p' : Protocol} {msg : SyncMessage} {b : Bool}
    (h_mine : p.isMsgFromMyClique msg.masterID = true)
    (h : p.filterSyncMsg e msg = .ok (b, p')) : b = true := by
  unfold Protocol.filterSyncMsg at h
  obtain ⟨-, h_rest⟩ := require_bind_eq_ok.1 h
  rw [if_pos h_mine] at h_rest
  obtain ⟨q, -, h_eq⟩ := bind_return_eq_ok.1 h_rest
  exact (Prod.mk.inj h_eq).1

theorem handle_work_stops {p p' : Protocol} {msg : SyncMessage} {r : HandlingResult}
    (h_type : msg.type = .workSync) (h_mine : p.isMsgFromMyClique msg.masterID = true)
    (h : Protocol.SyncSlot.handle c e p msg = .ok (r, p')) : r ≠ .keepListening := by
  unfold Protocol.SyncSlot.handle at h
  rw [h_type] at h
  have h_sync : (p.handleWorkAspectOfWorkCarryingMsg msg).handleSyncAspectOfSyncCarryingMsg e
    msg = .ok (r, p') := h
  obtain ⟨w, calls, h_w⟩ := Protocol.handleWorkAspectOfWorkCarryingMsg_eq p msg
  rw [h_w] at h_sync
  obtain ⟨⟨b, q⟩, h_filter, h_eq⟩ := bind_return_eq_ok.1 h_sync
  have h_b : b = true := filterSyncMsg_mine (by exact h_mine) h_filter
  rw [(Prod.mk.inj h_eq).1, h_b]
  exact HandlingResult.noConfusion

/-- The receiver is not started again after work of the own clique. -/
theorem HearsWork.radio_off {msg : SyncMessage} (h : a.HearsWork ev msg)
    (h_step : stepAgent c a e ev = .ok a') : a'.radio = none := by
  cases ev with
  | packet packet =>
      have h_handled := packet_handled h.radio h_step
      have h_msg : messageOf packet = some msg := h.message
      rw [h_msg] at h_handled
      obtain ⟨r, h_handle, h_off⟩ := h_handled
      exact h_off (handle_work_stops h.type (decide_eq_true h.mine.symm) h_handle)
  | _ => cases h.message

/-- The receiver is started in the sync slot only where the period is rolled. -/
theorem AgentStep.listens (h : AgentStep c e a ev a') (h_clock : a.clock ≤ e.now)
    (h_period : a.PeriodKept c) (h_radio : a'.radio = some .syncSlot) :
    a.radio = some .syncSlot ∨
      a'.protocol.schedule.startTimeOfSyncPeriod = a.protocol.schedule.endTimeOfSyncPeriod := by
  have h_one := h.oneTask
  have h_start := PeriodKept.start_le (h.periodKept h_clock h_period) h_one
  rw [h.clock] at h_start
  obtain ⟨y, h_end⟩ := h_one.radio _ h_radio
  cases h with
  | ran h_pending _ _ h_off h_ran =>
      rcases h_ran.receiver (dequeued_pending e _ _ h_pending) h_off h_start with h_none | h_on
      · rw [h_none] at h_radio
        cases h_radio
      · cases h_on with
        | inSyncSlot h_t => exact Or.inr (h_ran.rolls_period h_t).2
        | inFishSlot _ h_fishes =>
            rw [h_fishes] at h_end
            cases h_end
  | @heard _ handler _ _ h_was _ _ h_taken =>
      cases h_taken with
      | ignored =>
          cases h_radio
          exact Or.inl h_was
      | goesOn =>
          cases h_radio
          exact Or.inl h_was
      | ends => cases h_radio
  | succeeded _ h_off =>
      rw [show _ = none from h_off] at h_radio
      cases h_radio
  | failed _ h_off =>
      rw [show _ = none from h_off] at h_radio
      cases h_radio

end Agent

-- ============================================================================
-- Once
-- ============================================================================

/-- A packet arrives within a period from the start of the period. -/
def ArrivesInPeriod (a : Agent) (l : Env × AgentEvent) : Prop :=
  match l.2 with
  | .packet _ =>
      l.1.timeOfArrival < a.protocol.schedule.startTimeOfSyncPeriod + normalSyncPeriodDuration
  | _ => True

instance (a : Agent) : (l : Env × AgentEvent) → Decidable (ArrivesInPeriod a l)
  | (_, .packet _) => inferInstanceAs (Decidable (_ < _))
  | (_, .timer _ _) | (_, .provisionerSucceed _) | (_, .provisionerFail) => isTrue trivial

/-- When the work arrived that a step tells the app of. -/
def workArrival (c : Config) (t : Move Agent (Env × AgentEvent)) : Option Nat :=
  if tellsWork c t.before t.label.2 then some t.label.1.timeOfArrival else none

/-- The times at which work arrived, latest first: all in periods before, or in this
    one with the receiver off. -/
structure WorkKept (a : Agent) (arrivals : List Nat) : Prop where
  ascending : arrivals.Pairwise (· > ·)
  past : ∀ toa ∈ arrivals, toa < a.protocol.schedule.startTimeOfSyncPeriod ∨
    (toa < a.protocol.schedule.startTimeOfSyncPeriod + normalSyncPeriodDuration ∧
      a.radio ≠ some .syncSlot)
  bounds : arrivals = [] ∨ a.protocol.schedule.InBounds

section Once

variable {c : Config} {e : Env} {a a' : Agent} {ev : AgentEvent} {arrivals : List Nat}

/-- While the radio receives in the sync slot, the schedule is in bounds. -/
theorem Agent.inBounds_of_radio (h : (agentSystem c).Reachable a) (h_radio : a.radio = some .syncSlot) :
    a.protocol.schedule.InBounds := by
  obtain ⟨x, h_pending⟩ := (agentSystem_oneTask h.guarded_true).radio _ h_radio
  rcases ((agentSystem_periodKept h).waiting _ _ h_pending).bounds with h_bounds | h_first
  · exact h_bounds
  · cases h_first

/-- What has arrived stays past. -/
theorem WorkKept.past_step (h : WorkKept a arrivals) (h_step : Agent.AgentStep c e a ev a')
    (h_clock : a.clock ≤ e.now) (h_period : a.PeriodKept c) : ∀ toa ∈ arrivals,
      toa < a'.protocol.schedule.startTimeOfSyncPeriod ∨
        (toa < a'.protocol.schedule.startTimeOfSyncPeriod + normalSyncPeriodDuration ∧
          a'.radio ≠ some .syncSlot) := by
  intro toa h_toa
  rcases h.bounds with h_none | h_bounds
  · rw [h_none] at h_toa
    cases h_toa
  have h_end := h_bounds.end_ge
  have h_rolled : a'.protocol.schedule.startTimeOfSyncPeriod =
      a.protocol.schedule.endTimeOfSyncPeriod →
        toa < a'.protocol.schedule.startTimeOfSyncPeriod := by
    intro h_start
    rw [h_start]
    rcases h.past toa h_toa with h_past | ⟨h_now, -⟩
    · omega
    · have h_period : normalSyncPeriodDuration = 80000 := rfl
      omega
  rcases h_step.start with h_same | h_start
  · rw [h_same]
    rcases h.past toa h_toa with h_past | ⟨h_now, h_off⟩
    · exact Or.inl h_past
    · by_cases h_on : a'.radio = some .syncSlot
      · rcases h_step.listens h_clock h_period h_on with h_was | h_start
        · exact absurd h_was h_off
        · exact Or.inl (h_same ▸ h_rolled h_start)
      · exact Or.inr ⟨h_now, h_on⟩
  · exact Or.inl (h_rolled h_start)

theorem WorkKept.step (h : WorkKept a arrivals) (h_reach : (agentSystem c).Reachable a)
    (h_en : (agentSystem c).enabled a (e, ev)) (h_in : ArrivesInPeriod a (e, ev))
    (h_next : stepAgent c a e ev = .ok a') :
    WorkKept a' ((workArrival c ⟨a, (e, ev), a'⟩).toList ++ arrivals) := by
  obtain ⟨h_clock, h_possible⟩ := h_en
  have h_step := Agent.stepAgent_step (agentSystem_oneTask h_reach.guarded_true) h_possible h_next
  have h_period := agentSystem_periodKept h_reach
  have h_past := h.past_step h_step h_clock h_period
  cases h_tells : tellsWork c a ev with
  | false =>
      have h_arrival : workArrival c ⟨a, (e, ev), a'⟩ = none := by
        simp [workArrival, h_tells]
      rw [h_arrival]
      refine ⟨h.ascending, h_past, ?_⟩
      rcases h.bounds with h_none | h_bounds
      · exact Or.inl h_none
      · exact Or.inr (h_step.stays_in_period h_clock h_possible h_period h_bounds).1
  | true =>
      have h_arrival : workArrival c ⟨a, (e, ev), a'⟩ = some e.timeOfArrival := by
        simp [workArrival, h_tells]
      obtain ⟨msg, h_hears⟩ := Agent.hearsWork_of_tells h_tells
      have h_off := h_hears.radio_off h_next
      have h_bounds := Agent.inBounds_of_radio h_reach h_hears.radio
      obtain ⟨h_in', h_start⟩ := h_step.stays_in_period h_clock h_possible h_period h_bounds
      obtain ⟨packet, rfl⟩ : ∃ packet, ev = .packet packet := by
        cases ev with
        | packet packet => exact ⟨packet, rfl⟩
        | _ => cases h_hears.message
      obtain ⟨-, h_toa_ge, -⟩ := h_possible
      have h_toa_lt : e.timeOfArrival <
        a.protocol.schedule.startTimeOfSyncPeriod + normalSyncPeriodDuration := h_in
      rw [h_arrival]
      refine ⟨List.pairwise_cons.2 ⟨fun toa h_toa => ?_, h.ascending⟩,
        List.forall_mem_cons.2 ⟨Or.inr ⟨by omega, ?_⟩, h_past⟩, Or.inr h_in'⟩
      · rcases h.past toa h_toa with h_before | ⟨-, h_deaf⟩
        · exact Nat.lt_of_lt_of_le h_before h_toa_ge
        · exact absurd h_hears.radio h_deaf
      · rw [h_off]
        exact (Option.some_ne_none _).symm

/-- The work that a unit tells its app of arrives at ascending times. -/
theorem workArrivals_ascending {w : Agent × List (Move Agent (Env × AgentEvent))}
    (h : ((agentSystem c).guarded ArrivesInPeriod).recorded.Reachable w) :
    (w.2.filterMap (workArrival c)).Pairwise (· > ·) := by
  have h_kept : WorkKept w.1 (w.2.filterMap (workArrival c)) := by
    refine System.Reachable.watched_invariant
      (fun a moves => WorkKept a (moves.filterMap (workArrival c))) h.guarded_true ?_ ?_
    · intro a _
      refine ⟨List.Pairwise.nil, fun toa h_toa => ?_, Or.inl rfl⟩
      cases h_toa
    · rintro a moves ⟨e, ev⟩ a' h_reach h_a ⟨h_en, h_in⟩ - h_next
      have h_kept := h_a.step h_reach.of_guarded h_en h_in h_next
      cases h_arrival : workArrival c ⟨a, (e, ev), a'⟩ with
      | none =>
          rw [h_arrival] at h_kept
          rw [List.filterMap_cons_none h_arrival]
          exact h_kept
      | some toa =>
          rw [h_arrival] at h_kept
          rw [List.filterMap_cons_some h_arrival]
          exact h_kept
  exact h_kept.ascending

end Once

-- ============================================================================
-- Among other units
-- ============================================================================

namespace Agent

variable {c : Config} {e : Env} {a a' : Agent} {ev : AgentEvent} {msg m : SyncMessage}

/-- A control that is announced is none of work. -/
theorem announces_not_work (h : (agentSystem c).Reachable a) :
    a.protocol.intraClique.repeater.messageType ≠ .workSync := by
  have h_announces : a.protocol.AnnouncesOnly fun _ => True := by
    refine agentSystem_protocol (P := fun p => p.AnnouncesOnly fun _ => True) h
      (fun initTime loopTime => Protocol.AnnouncesOnly.booted _ c initTime loopTime) ?_
    intro p h_p
    refine h_p.invariant (fun p => p.AnnouncesOnly fun _ => True) ?_ ?_
    · rintro p ⟨initTime, loopTime, rfl⟩
      exact (Protocol.AnnouncesOnly.booted _ c initTime loopTime).of_same rfl
    · intro p l p' h_announces _ h_step
      exact h_announces.step (fun _ _ => trivial) h_step
  rcases h_announces with ⟨h_invalid, -⟩ | ⟨k, -, h_type, -⟩
  · rw [h_invalid]
    exact MessageType.noConfusion
  · rw [h_type]
    cases k <;> exact MessageType.noConfusion

/-- Work is sent in a sync slot that is given to work, as it is in the mailbox. -/
theorem Transmits.work (h : a.Transmits c e ev m) (h_reach : (agentSystem c).Reachable a)
    (h_type : m.type = .workSync) :
    (∃ x, ev = .timer .sendSync x) ∧ a.kind = .sendWorkSync ∧ m.work = e.mail.getD 0 ∧
      m.masterID = a.protocol.masterID := by
  cases h with
  | inSyncSlot h_msg =>
      unfold syncSlotMessage at h_msg
      cases h_kind : a.kind <;> rw [h_kind] at h_msg
      case sendWorkSync =>
        have h_init := ofProtocol_eq_ok.1 h_msg
        exact ⟨⟨_, rfl⟩, rfl, Protocol.initSyncMessage_work h_init,
          (Protocol.initSyncMessage_eq_ok h_init).2.2.1⟩
      case sendSync =>
        have h_init := ofProtocol_eq_ok.1 h_msg
        have h_is : m.type = .masterSync := (Protocol.initSyncMessage_eq_ok h_init).2.1
        cases h_is.symm.trans h_type
      case sendControlSync =>
        have h_init := ofProtocol_eq_ok.1 h_msg
        have h_is := (Protocol.initSyncMessage_eq_ok h_init).2.1
        exact absurd (h_is.symm.trans h_type) (announces_not_work h_reach)
      case listen => cases h_msg
  | inMergeSlot h_msg =>
      have h_merge := (agentSystem_saysMerge h_reach).isMerge h_msg
      rw [h_type] at h_merge
      cases h_merge

end Agent

namespace Units

variable {ι : Type} {u : Units ι} {zero : ι → ℤ}

/-- Mail is still there when the sync slot that is given to it fetches it. -/
def MailStays (s : ι → Agent) (l : ι × (Env × AgentEvent)) : Prop :=
  l.2.2.isSendSync = true → (s l.1).kind = .sendWorkSync → l.2.1.mail ≠ none

instance (s : ι → Agent) (l : ι × (Env × AgentEvent)) : Decidable (MailStays s l) :=
  inferInstanceAs (Decidable (_ → _ → _))

/-- The step `sent` transmits the mail `v`, which arrives in the step `heard` at a unit
    of the same clique. -/
structure PassesOn (u : Units ι) (zero : ι → ℤ) (v : Payload) (sent heard : AirMove ι) : Prop where
  task : ∃ x, sent.label.2.2 = .timer .sendSync x
  kind : (sent.before sent.label.1).kind = .sendWorkSync
  mail : sent.label.2.1.mail = some v
  clique : (sent.before sent.label.1).protocol.masterID =
    (heard.before heard.label.1).protocol.masterID
  arrival : zero heard.label.1 + heard.label.2.1.timeOfArrival =
    zero sent.label.1 + sent.label.2.1.now +
      PhysicalParameters.sendLatency (u.config sent.label.1).platform

variable [DecidableEq ι] {w : (ι → Agent) × List (AirMove ι)}
  {ok : (ι → Agent) → ι × (Env × AgentEvent) → Prop}

/-- What is on the air was transmitted in some step. -/
theorem transmitted_of_frame (h : ((u.stations zero).air.guarded ok).recorded.Reachable w) {j : ι}
    {f : Frame} (h_f : f ∈ (w.1 j).frames) :
    ∃ t ∈ w.2, ∃ m, t.label.1 = j ∧
      (t.before j).Transmits (u.config j) t.label.2.1 t.label.2.2 m ∧
        f = ⟨t.label.2.1.now, bufferOf m⟩ := by
  obtain ⟨t, h_t, h_not, h_is⟩ := h.recorded_became (fun s => f ∈ (s j).frames) (by
    intro s h_init h_mem
    obtain ⟨initTime, loopTime, -, h_boot⟩ := h_init j
    rw [h_boot] at h_mem
    cases h_mem) h_f
  obtain ⟨h_reach, h_en, h_next⟩ := h.recorded_moves t h_t
  obtain ⟨h_own, h_others⟩ := Stations.air_step h_next
  have h_j : t.label.1 = j := by
    by_contra h_ne
    rw [h_others j (Ne.symm h_ne)] at h_is
    exact h_not h_is
  subst h_j
  have h_one := agentSystem_oneTask (air_agent h_reach t.label.1).guarded_true
  have h_step := Agent.stepAgent_step h_one h_en.1.1.2 h_own
  rcases h_step.frames_eq with h_same | ⟨m, h_transmits, h_frames⟩
  · rw [h_same] at h_is
    exact absurd h_is h_not
  · rw [h_frames] at h_is
    rcases List.mem_cons.1 h_is with h_new | h_old
    · exact ⟨t, h_t, m, rfl, h_transmits, h_new⟩
    · exact absurd h_old h_not

/-- Work is passed on as it is.  In every run in which mail stays until it is fetched,
    each work that a step tells an app of is what an earlier step fetched from the
    mailbox of a unit that was in the same clique, and it arrived when that unit had
    transmitted it. -/
theorem air_work_passed_on
    (h : ((u.stations zero).air.guarded MailStays).recorded.Reachable w)
    {later earlier : List (AirMove ι)} {t : AirMove ι} (h_t : w.2 = later ++ t :: earlier)
    {v : Payload} (h_told : .onWorkMsg v ∈
      callsOfStep (u.config t.label.1) (t.before t.label.1) t.label.2.2) :
    ∃ sent ∈ earlier, u.PassesOn zero v sent t := by
  have h_mem : t ∈ w.2 := by
    rw [h_t]
    exact List.mem_append_right _ List.mem_cons_self
  obtain ⟨h_reach, ⟨h_en, -⟩, -⟩ := h.recorded_moves t h_mem
  obtain ⟨msg, h_hears, h_v⟩ := Agent.work_of_mem h_told
  obtain ⟨j, f, h_f, h_from⟩ := heardFrom_of_enabled h_en h_hears.message
  have h_before := h.recorded_earlier h_t
  obtain ⟨sent, h_sent, m, rfl, h_transmits, rfl⟩ := transmitted_of_frame h_before h_f
  obtain ⟨h_sender, ⟨-, h_mail⟩, -⟩ := h_before.recorded_moves sent h_sent
  obtain ⟨h_type, -, h_work, h_master⟩ := Serializer.read_bufferOf h_from.read (by
    rw [h_hears.type]
    rfl)
  obtain ⟨⟨x, h_task⟩, h_kind, h_fetched, h_clique⟩ :=
    h_transmits.work (air_agent h_sender _) (h_type.trans h_hears.type)
  obtain ⟨k, h_k⟩ := (air_follows h_sender sent.label.1).1.masterID_mem
  have h_fits : m.masterID < 2 ^ 48 := by
    rw [h_clique, h_k]
    exact u.id_lt k
  refine ⟨sent, h_sent, ⟨x, h_task⟩, h_kind, ?_, ?_, h_from.arrival⟩
  · have h_some := h_mail (by rw [h_task]; rfl) h_kind
    obtain ⟨v', h_v'⟩ := Option.ne_none_iff_exists'.1 h_some
    rw [h_v', Option.getD_some] at h_fetched
    rw [h_v', ← h_fetched, h_work, h_v]
  · rw [← h_clique, h_master h_fits, h_hears.mine]

def tossesSync (now : Nat) : Env := { Env.quiet now with syncCoinToss := true }

def hasMail (now : Nat) : Env := { Env.quiet now with mail := some 17 }

/-- The work of three as it sends it in its second sync slot. -/
def workOfThree : SyncMessage := { syncOfThree with type := .workSync, work := 17 }

/-- Five joins three in their first sync slot, and hears its work in the second. -/
def hearsWorkOfThree : List (Fin 2 × (Env × AgentEvent)) :=
  (labelsFrom unitThree (Agent.boot unitThree 0 0)
    (List.replicate 2 (runsNext Env.quiet) ++ [runsNext tossesSync] ++
      List.replicate 4 (runsNext Env.quiet) ++ List.replicate 3 (runsNext hasMail))).map
        (Prod.mk three) ++
  (labelsFrom unitFive (Agent.boot unitFive 0 0)
    (List.replicate 3 (runsNext Env.quiet) ++ [fun _ => arrives 80025 syncOfThree] ++
      List.replicate 5 (runsNext Env.quiet) ++ [fun _ => arrives 160025 workOfThree])).map
        (Prod.mk five)

theorem air_work_passed_on_hearsWorkOfThree :
    ∃ w, ((fiveAndThree.stations 0).air.guarded MailStays).recorded.Reachable w ∧
      ∃ t earlier, w.2 = t :: earlier ∧ t.label.1 = 0 ∧
        ∃ sent ∈ earlier, fiveAndThree.PassesOn 0 17 sent t := by
  obtain ⟨w, h, t, h_t, h_told, h_five⟩ :=
    System.Reachable.exists_of_play
      (M := ((fiveAndThree.stations 0).air.guarded MailStays).recorded)
      (P := fun w => ∃ t ∈ w.2.head?, AppCall.onWorkMsg 17 ∈
          callsOfStep (fiveAndThree.config t.label.1) (t.before t.label.1) t.label.2.2 ∧
        t.label.1 = 0) hearsWorkOfThree
      (show ((fiveAndThree.stations 0).air.guarded MailStays).recorded.init
        (fun i => Agent.boot (fiveAndThree.config i) 0 0, []) from
          ⟨fun i => ⟨0, 0, Nat.le_refl _, rfl⟩, rfl⟩)
      (by decide +kernel)
  obtain ⟨earlier, h_moves⟩ := List.head?_eq_some_iff.1 h_t
  have h_split : w.2 = [] ++ t :: earlier := h_moves
  exact ⟨w, h, t, earlier, h_moves, h_five, air_work_passed_on h h_split h_told⟩

/-- The step brings the work of frame `f` of unit `j` to the app of unit `i`. -/
def DeliversWork (u : Units ι) (zero : ι → ℤ) (i j : ι) (f : Frame) (t : AirMove ι) : Prop :=
  t.label.1 = i ∧ tellsWork (u.config i) (t.before i) t.label.2.2 = true ∧
    (u.stations zero).arrives j i f t.label.2

instance (i j : ι) (f : Frame) (t : AirMove ι) : Decidable (u.DeliversWork zero i j f t) :=
  inferInstanceAs (Decidable (_ ∧ _ ∧ _))

/-- Work is delivered once.  In every run in which packets arrive within a period from
    the start of the receiver's period, no transmission brings work to the app of a
    unit twice. -/
theorem air_work_once
    (h : ((u.stations zero).air.guarded fun s l => ArrivesInPeriod (s l.1) l.2).recorded.Reachable
      w) (i j : ι) (f : Frame) :
    (w.2.filter fun t => u.DeliversWork zero i j f t).length ≤ 1 := by
  have h_station : (((u.stations zero).station i).guarded ArrivesInPeriod).recorded.Reachable
      (w.1 i, w.2.filterMap (Stations.ownMove i)) :=
    Stations.air_recorded_station (fun _ _ _ h_in => h_in) h i
  have h_own := workArrivals_ascending h_station
  rw [List.filterMap_filterMap, List.pairwise_filterMap] at h_own
  have h_delivered := h_own.filter fun t => decide (u.DeliversWork zero i j f t)
  have h_toa : ∀ t, u.DeliversWork zero i j f t →
      (Stations.ownMove i t).bind (workArrival (u.config i)) = some t.label.2.1.timeOfArrival ∧
        zero i + t.label.2.1.timeOfArrival =
          zero j + f.sentAt + PhysicalParameters.sendLatency (u.config j).platform := by
    rintro t ⟨h_i, h_tells, -, h_arrival⟩
    refine ⟨?_, h_arrival⟩
    simp [Stations.ownMove, workArrival, h_i, h_tells]
  have h_mem : ∀ t ∈ w.2.filter fun t => u.DeliversWork zero i j f t,
      u.DeliversWork zero i j f t := fun t h_t => of_decide_eq_true (List.mem_filter.1 h_t).2
  generalize (w.2.filter fun t => u.DeliversWork zero i j f t) = delivered at h_delivered h_mem ⊢
  match delivered with
  | [] => exact Nat.zero_le 1
  | [t] => exact Nat.le_refl 1
  | t :: t' :: rest =>
      obtain ⟨h_t, h_arrival⟩ := h_toa t (h_mem t List.mem_cons_self)
      obtain ⟨h_t', h_arrival'⟩ :=
        h_toa t' (h_mem t' (List.mem_cons_of_mem t List.mem_cons_self))
      have h_later : t'.label.2.1.timeOfArrival < t.label.2.1.timeOfArrival :=
        (List.pairwise_cons.1 h_delivered).1 t' List.mem_cons_self _ h_t _ h_t'
      omega

theorem air_work_once_hearsWorkOfThree :
    ∃ w, ((fiveAndThree.stations 0).air.guarded fun s l =>
        ArrivesInPeriod (s l.1) l.2).recorded.Reachable w ∧
      (w.2.filter fun t => fiveAndThree.DeliversWork 0 0 1 ⟨160015, bufferOf workOfThree⟩ t) ≠ [] ∧
      (w.2.filter fun t =>
        fiveAndThree.DeliversWork 0 0 1 ⟨160015, bufferOf workOfThree⟩ t).length ≤ 1 := by
  obtain ⟨w, h, h_some⟩ :=
    System.Reachable.exists_of_play
      (M := ((fiveAndThree.stations 0).air.guarded fun s l =>
        ArrivesInPeriod (s l.1) l.2).recorded)
      (P := fun w => ∃ t ∈ w.2,
        fiveAndThree.DeliversWork 0 0 1 ⟨160015, bufferOf workOfThree⟩ t) hearsWorkOfThree
      (show ((fiveAndThree.stations 0).air.guarded fun s l =>
          ArrivesInPeriod (s l.1) l.2).recorded.init
        (fun i => Agent.boot (fiveAndThree.config i) 0 0, []) from
          ⟨fun i => ⟨0, 0, Nat.le_refl _, rfl⟩, rfl⟩)
      (by decide +kernel)
  obtain ⟨t, h_t, h_delivers⟩ := h_some
  refine ⟨w, h, fun h_none => ?_, air_work_once h 0 1 _⟩
  exact List.filter_eq_nil_iff.1 h_none t h_t (decide_eq_true h_delivers)

end Units

end SleepSync
