/-
  SleepSync.GranularityAgreement

  The granularity a master sets after it has announced it, and the one its slaves
  take from what it sends.

  The value crosses the air as the value of the enumeration, and the switch that
  reads it takes the values in the opposite order: only medium arrives as it was
  sent.  A request that finds the repeater busy is remembered, but not announced.
  And the sync slots between the repetitions may be used for ordinary MasterSyncs,
  which carry the granularity that is about to be changed.

  So master and slaves agree after an announcement exactly if what is remembered,
  and whatever has been sent since its first message, is medium.
-/

import Mathlib.Data.List.Induction
import SleepSync.Granularity
import SleepSync.ScheduleBounds

namespace SleepSync

open Lib ScheduleParameters

-- ============================================================================
-- What a master has sent
-- ============================================================================

/-- The MasterSync of the sync slot, be it ordinary or an announcement. -/
def Agent.masterSync (c : Config) (e : Env) (a : Agent) : List SyncMessage :=
  match a.syncSlotMessage c e with
  | .ok msg => if msg.type = .masterSync then [msg] else []
  | .error _ => []

/-- The MasterSyncs since the first message of the episode, latest first. -/
def noteMasterSync (c : Config) (w : Agent × Episode) (l : Env × AgentEvent)
    (w' : Agent × Episode) (sent : List SyncMessage) : List SyncMessage :=
  if w.1.repeater.isActive = false ∧ w'.1.repeater.isActive = true then
    []
  else
    match l.2 with
    | .timer t _ =>
        if t = .sendSync ∧ (w.1.kind = .sendControlSync ∨ sent ≠ []) then
          w.1.masterSync c l.1 ++ sent
        else sent
    | _ => sent

/-- A unit with its last episode and the MasterSyncs sent since it began. -/
def announcementSystem (c : Config) :
    System ((Agent × Episode) × List SyncMessage) (Env × AgentEvent) TaskFault :=
  (episodeSystem c).watched [] (noteMasterSync c)

abbrev AnnouncementMove := Move ((Agent × Episode) × List SyncMessage) (Env × AgentEvent)

-- ============================================================================
-- What a slave hears
-- ============================================================================

/-- A unit runs as a slave from `q` to `q'`, and `msgs` are the MasterSyncs it hears
    in its sync slots, in this order. -/
inductive HearsAsSlave (c : Config) (q : Protocol) : List SyncMessage → Protocol → Prop
  | start : HearsAsSlave c q [] q
  | hears {msgs : List SyncMessage} {q₁ q₂ : Protocol} {e : Env} {msg : SyncMessage}
      (h : HearsAsSlave c q msgs q₁) (h_slave : q₁.isSelfMaster c = false)
      (h_type : msg.type = .masterSync) (h_timely : (ProtocolEvent.hearInSyncSlot msg).Timely q₁ e)
      (h_step : stepProtocol c q₁ e (.hearInSyncSlot msg) = .ok q₂) :
      HearsAsSlave c q (msgs ++ [msg]) q₂
  | goesOn {msgs : List SyncMessage} {q₁ q₂ : Protocol} {e : Env} {ev : ProtocolEvent}
      (h : HearsAsSlave c q msgs q₁) (h_slave : q₁.isSelfMaster c = false)
      (h_hears : ev.hearsMasterSync = false) (h_timely : ev.Timely q₁ e)
      (h_step : stepProtocol c q₁ e ev = .ok q₂) : HearsAsSlave c q msgs q₂

/-- The granularity a MasterSync says. -/
def SyncMessage.granularity (msg : SyncMessage) : NetGranularity := Granularity.getFromRaw msg.work

-- ============================================================================
-- Agreement
-- ============================================================================

namespace Agent

variable (c : Config) (a : Agent)

/-- The sync slot that completes a master's announcement of a granularity. -/
def EnactsGranularity (l : Env × AgentEvent) : Prop :=
  a.givesSlotToControl l.1 l.2 = true ∧
    Policy.countRepeatsPerControlSync ≤ a.repeater.counter ∧
    a.repeater.onDoneCallback = .onDoneGranularityWithAction

instance (l : Env × AgentEvent) : Decidable (a.EnactsGranularity l) :=
  inferInstanceAs (Decidable (_ ∧ _ ∧ _))

/-- The last message of an announcement is still to be sent when its action is
    taken. -/
def SendsLast (msg : SyncMessage) : Prop := ∃ e, a.protocol.sendControlSync c e = .ok msg

/-- An ordinary MasterSync of a master, for as long as it has the granularity it has
    now. -/
def SendsOrdinary (msg : SyncMessage) : Prop :=
  ∃ b e, (agentSystem c).Leads a b ∧ b.protocol.isSelfMaster c = true ∧
    b.protocol.granularity = a.protocol.granularity ∧ b.protocol.sendMasterSync c e = .ok msg

end Agent

/-- A message of the announcement that a step completes. -/
def IsAnnouncement (c : Config) (t : AnnouncementMove) (msg : SyncMessage) : Prop :=
  msg ∈ t.before.1.2.sent ∨ t.after.1.1.SendsLast c msg

/-- A slave hears some of what the master has sent since the first message of the
    announcement, and then any of what it sends after the action, at least one
    message of the announcement among it: its granularity is that of the master. -/
def GranularityAgrees (c : Config) (t : AnnouncementMove) : Prop :=
  ∀ (cS : Config) (q q' : Protocol) (before after : List SyncMessage),
    (protocolSystem cS).Reachable q → HearsAsSlave cS q (before ++ after) q' →
    before.reverse.Sublist t.before.2 →
    (∀ msg ∈ after, t.after.1.1.SendsLast c msg ∨ t.after.1.1.SendsOrdinary c msg) →
    (∃ msg ∈ before ++ after, IsAnnouncement c t msg) →
      q'.granularity = t.after.1.1.protocol.granularity

/-- Medium is remembered, and nothing else has been sent since the first message of
    the announcement. -/
structure AllMedium (w : (Agent × Episode) × List SyncMessage) : Prop where
  remembered : w.1.1.protocol.intraClique.granularity = .medium
  sent : ∀ msg ∈ w.2, msg.granularity = .medium

-- ============================================================================
-- Slaves
-- ============================================================================

section Slaves

variable {c : Config} {q q' : Protocol} {msgs : List SyncMessage} {msg : SyncMessage}

theorem HearsAsSlave.reachable (h : HearsAsSlave c q msgs q')
    (h_q : (protocolSystem c).Reachable q) : (protocolSystem c).Reachable q' := by
  induction h with
  | start => exact h_q
  | @hears _ _ _ e _ _ _ _ h_timely h_step ih =>
      exact ih.next (l := (e, _)) h_timely h_step
  | @goesOn _ _ _ e _ _ _ _ h_timely h_step ih =>
      exact ih.next (l := (e, _)) h_timely h_step

/-- One MasterSync after the other is tried. -/
theorem HearsAsSlave.granularity (h : HearsAsSlave c q msgs q') :
    q'.granularity = (msgs.map SyncMessage.granularity).foldl Granularity.tried q.granularity := by
  induction h with
  | start => rfl
  | hears _ _ h_type _ h_step ih =>
      obtain ⟨⟨r, p₁⟩, h_handle, rfl⟩ := bind_return_eq_ok.1 h_step
      rw [List.map_append, List.foldl_append, ← ih]
      exact Protocol.handle_masterSync_granularity h_type h_handle
  | goesOn _ h_slave h_hears _ h_step ih =>
      rw [Protocol.slave_granularity h_slave h_hears h_step]
      exact ih

/-- The last one stays. -/
theorem HearsAsSlave.granularity_last (h : HearsAsSlave c q (msgs ++ [msg]) q')
    (h_valid : msg.granularity ≠ .invalid) : q'.granularity = msg.granularity := by
  rw [h.granularity, List.map_append, List.foldl_append]
  exact Granularity.tried_of_valid h_valid

theorem HearsAsSlave.granularity_of_all {g : NetGranularity} (h : HearsAsSlave c q msgs q')
    (h_g : g ≠ .invalid) (h_all : ∀ msg ∈ msgs, msg.granularity = g) (h_ne : msgs ≠ []) :
    q'.granularity = g := by
  obtain ⟨init, last, rfl⟩ := (List.eq_nil_or_concat' msgs).resolve_left h_ne
  have h_last := h_all last (by simp)
  rw [h.granularity_last, h_last]
  rw [h_last]
  exact h_g

/-- At the start of its period a unit handles any MasterSync, and is in the better
    of the two cliques then. -/
theorem hears_masterSync_ok (msg : SyncMessage) (h_q : q.schedule.InBounds)
    (h_type : msg.type = .masterSync) :
    ∃ q', stepProtocol c q (arriving q.schedule.startTimeOfSyncPeriod) (.hearInSyncSlot msg) =
        .ok q' ∧ q'.masterID = min q.masterID msg.masterID := by
  have h_valid := msg.deltaToNextSyncPoint.isValidValue
  cases h_handle : Protocol.SyncSlot.handle c (arriving q.schedule.startTimeOfSyncPeriod) q msg with
  | error flt =>
      have h_accepts : q.schedule.AcceptsEventTime (Schedule.adjustedEventTimeFromMsg msg
          q.schedule.startTimeOfSyncPeriod) := Or.inl (Nat.add_le_add_left h_valid _)
      obtain ⟨s, h_s⟩ := (Schedule.adjustBySyncMsg_ok_iff h_q (Nat.le_refl _)).2 h_accepts
      rcases Protocol.SyncSlot.handle_eq_error h_handle with ⟨-, h_err⟩ | ⟨h_scatter, -⟩
      · have h_adjust : q.schedule.adjustBySyncMsg msg q.schedule.startTimeOfSyncPeriod =
          .error flt := h_err
        rw [h_s] at h_adjust
        cases h_adjust
      · rw [h_type] at h_scatter
        cases h_scatter
  | ok x =>
      obtain ⟨r, q'⟩ := x
      refine ⟨q', bind_return_eq_ok.2 ⟨(r, q'), h_handle, rfl⟩, ?_⟩
      cases Protocol.SyncSlot.handle_heard h_handle with
      | joined h_adopts =>
          have h_le := Protocol.masterID_le_of_keeps (Protocol.adoptsInSyncSlot_iff.1 h_adopts).2
          exact (Nat.min_eq_right h_le).symm
      | other h_not =>
          have h_lt : q.masterID < msg.masterID := by
            by_contra h_le
            refine absurd (Protocol.adoptsInSyncSlot_iff.2 ⟨Or.inl h_type, ?_⟩)
              (ne_true_of_eq_false h_not)
            rcases Nat.lt_or_eq_of_le (Nat.le_of_not_lt h_le) with h_better | h_mine
            · exact Or.inr (decide_eq_true h_better)
            · exact Or.inl (decide_eq_true h_mine.symm)
          exact (Nat.min_eq_left (Nat.le_of_lt h_lt)).symm
      | scattered h_scatter =>
          rw [h_type] at h_scatter
          cases h_scatter
      | assumed h_assumed =>
          rw [h_type] at h_assumed
          cases h_assumed
      | enticed h_merge => simp only [h_type, reduceCtorEq, or_self] at h_merge

/-- A slave of a clique that is better than its own can hear one more, in its next
    period. -/
theorem HearsAsSlave.exists_hears (h : HearsAsSlave c q msgs q')
    (h_q : (protocolSystem c).Reachable q) (h_id : q'.masterID < c.id)
    (h_type : msg.type = .masterSync) :
    ∃ q'', HearsAsSlave c q (msgs ++ [msg]) q'' ∧ q''.masterID < c.id := by
  have h_slave : q'.isSelfMaster c = false := decide_eq_false (Nat.ne_of_lt h_id)
  have h_rolled : HearsAsSlave c q msgs q'.preludeToSyncPeriod := by
    have h_timely : ProtocolEvent.rollPeriodForward.Timely q'
        (Env.quiet q'.schedule.startTimeOfSyncPeriod) :=
      ⟨Nat.le_refl _, fun h_none => absurd rfl h_none⟩
    exact h.goesOn h_slave rfl h_timely rfl
  obtain ⟨q'', h_step, h_min⟩ := hears_masterSync_ok (c := c) msg
    (protocolSystem_inBounds (h_rolled.reachable h_q)) h_type
  refine ⟨q'', h_rolled.hears h_slave h_type ?_ h_step, ?_⟩
  · exact ⟨Nat.le_refl _, fun _ => ⟨Nat.le_refl _, Nat.le_refl _⟩⟩
  · rw [h_min]
    exact Nat.lt_of_le_of_lt (Nat.min_le_left _ _) h_id

/-- Any MasterSyncs are heard by some slave of unit `c`. -/
theorem exists_hearsAsSlave (c : Config) (h_types : ∀ msg ∈ msgs, msg.type = .masterSync) :
    ∃ cS q q', (protocolSystem cS).Reachable q ∧ q.masterID = c.id ∧ HearsAsSlave cS q msgs q' := by
  let cS : Config := { c with id := c.id + 1 }
  obtain ⟨q, h_q, h_master⟩ : ∃ q, (protocolSystem cS).Reachable q ∧ q.masterID = c.id := by
    have h_boot : (protocolSystem cS).Reachable (Protocol.boot cS 0 0).preludeToSyncPeriod :=
      System.Reachable.start ⟨0, 0, rfl⟩
    have h_timely : (ProtocolEvent.hearInSyncSlot (masterSyncFrom c.id ⟨0, Nat.zero_le _⟩)).Timely
        (Protocol.boot cS 0 0).preludeToSyncPeriod (arriving _) :=
      ⟨Nat.le_refl _, fun _ => ⟨Nat.le_refl _, Nat.le_refl _⟩⟩
    obtain ⟨q, h_step, h_min⟩ := hears_masterSync_ok (c := cS)
      (masterSyncFrom c.id ⟨0, Nat.zero_le _⟩) (protocolSystem_inBounds h_boot) rfl
    refine ⟨q, h_boot.next (l := (_, _)) h_timely h_step, ?_⟩
    rw [h_min]
    exact Nat.min_eq_right (Nat.le_succ _)
  have h_run : ∃ q', HearsAsSlave cS q msgs q' ∧ q'.masterID < cS.id := by
    induction msgs using List.reverseRecOn with
    | nil =>
        refine ⟨q, HearsAsSlave.start, ?_⟩
        rw [h_master]
        exact Nat.lt_succ_self _
    | append_singleton msgs msg ih =>
        obtain ⟨q', h_hears, h_id⟩ := ih fun m h_m => h_types m (List.mem_append_left _ h_m)
        exact h_hears.exists_hears h_q h_id (h_types msg (by simp))
  obtain ⟨q', h_hears, -⟩ := h_run
  exact ⟨cS, q, q', h_q, h_master, h_hears⟩

end Slaves

-- ============================================================================
-- The messages of an announcement
-- ============================================================================

/-- What has been sent since an episode began, of an episode that announces a
    granularity or of another. -/
structure MasterSyncsKept (ep : Episode) (sent : List SyncMessage) : Prop where
  valid : ∀ msg ∈ sent, msg.type = .masterSync ∧ msg.granularity ≠ .invalid
  announced : ∀ msg ∈ ep.sent, msg.type = .masterSync → msg ∈ sent
  first : sent = [] ∨ ∃ msg ∈ ep.sent, ∃ later, sent = later ++ [msg]

section Announcements

variable {c : Config} {e : Env} {a a' : Agent} {ep ep' : Episode} {ev : AgentEvent}
  {sent : List SyncMessage} {msg : SyncMessage}

theorem Agent.mem_masterSync :
    msg ∈ a.masterSync c e ↔ a.syncSlotMessage c e = .ok msg ∧ msg.type = .masterSync := by
  unfold masterSync
  cases a.syncSlotMessage c e with
  | error flt => simp
  | ok m =>
      by_cases h_type : m.type = .masterSync
      · simp only [h_type, if_true, List.mem_singleton, Except.ok.injEq]
        refine ⟨?_, fun h => h.1.symm⟩
        rintro rfl
        exact ⟨rfl, h_type⟩
      · simp only [h_type, if_false, List.not_mem_nil, Except.ok.injEq, false_iff]
        rintro ⟨rfl, h⟩
        exact h_type h

theorem sendMasterSync_eq_ok {p : Protocol} (h : p.sendMasterSync c e = .ok msg) :
    msg.type = .masterSync ∧ msg.work = Granularity.getRaw p.granularity := by
  obtain ⟨-, h_type, -⟩ := Protocol.initSyncMessage_eq_ok h
  exact ⟨h_type, Protocol.initSyncMessage_work h⟩

/-- A MasterSync of either kind says one of the three. -/
theorem Agent.masterSync_valid (h : a.protocol.GranularityValid) (h_msg : msg ∈ a.masterSync c e) :
    msg.type = .masterSync ∧ msg.granularity ≠ .invalid := by
  obtain ⟨h_ok, h_type⟩ := mem_masterSync.1 h_msg
  refine ⟨h_type, ?_⟩
  unfold syncSlotMessage at h_ok
  cases h_kind : a.kind <;> rw [h_kind] at h_ok
  case sendWorkSync =>
    have h_work := (Protocol.initSyncMessage_eq_ok (ofProtocol_eq_ok.1 h_ok)).2.1
    rw [h_type] at h_work
    cases h_work
  case sendSync =>
    unfold SyncMessage.granularity
    rw [(sendMasterSync_eq_ok (ofProtocol_eq_ok.1 h_ok)).2]
    exact Granularity.getFromRaw_getRaw_ne_invalid h.own
  case sendControlSync =>
    obtain ⟨h_message, h_work, -⟩ := sendControlSync_eq_ok (ofProtocol_eq_ok.1 h_ok)
    unfold SyncMessage.granularity
    rw [h_work]
    rw [h_type] at h_message
    exact h.announced h_message.symm
  case listen => cases h_ok

theorem MasterSyncsKept.append (ms cs : List SyncMessage) (h : MasterSyncsKept ep sent)
    (h_ep : ep'.sent = cs ++ ep.sent)
    (h_ms : ∀ msg ∈ ms, msg.type = .masterSync ∧ msg.granularity ≠ .invalid)
    (h_cs : ∀ msg ∈ cs, msg.type = .masterSync → msg ∈ ms)
    (h_first : sent ≠ [] ∨ ms = [] ∨ ∃ msg ∈ cs, ms = [msg]) :
    MasterSyncsKept ep' (ms ++ sent) where
  valid msg h_msg := (List.mem_append.1 h_msg).elim (h_ms msg) (h.valid msg)
  announced msg h_msg h_type := by
    rw [h_ep] at h_msg
    rcases List.mem_append.1 h_msg with h_c | h_c
    · exact List.mem_append_left _ (h_cs msg h_c h_type)
    · exact List.mem_append_right _ (h.announced msg h_c h_type)
  first := by
    rw [h_ep]
    rcases h.first with rfl | ⟨msg, h_msg, later, rfl⟩
    · rcases h_first with h_ne | rfl | ⟨msg, h_msg, rfl⟩
      · exact absurd rfl h_ne
      · exact Or.inl rfl
      · exact Or.inr ⟨msg, List.mem_append_left _ h_msg, [], rfl⟩
    · refine Or.inr ⟨msg, List.mem_append_right _ h_msg, ms ++ later, ?_⟩
      rw [List.append_assoc]

/-- The control message of a sync slot is noted with the episode, and as a
    MasterSync if it is one. -/
theorem Agent.masterSync_of_control (h_kind : a.kind = .sendControlSync) :
    (∀ msg ∈ a.controlMessage c e, msg.type = .masterSync → msg ∈ a.masterSync c e) ∧
      (a.masterSync c e = [] ∨ ∃ msg ∈ a.controlMessage c e, a.masterSync c e = [msg]) := by
  have h_same : a.syncSlotMessage c e = ofProtocol (a.protocol.sendControlSync c e) := by
    unfold syncSlotMessage
    rw [h_kind]
  unfold masterSync controlMessage
  rw [h_same]
  cases a.protocol.sendControlSync c e with
  | error flt => exact ⟨fun msg h_msg => absurd h_msg List.not_mem_nil, Or.inl rfl⟩
  | ok m =>
      dsimp only [ofProtocol]
      by_cases h_type : m.type = .masterSync
      · rw [if_pos h_type]
        exact ⟨fun msg h_msg _ => h_msg, Or.inr ⟨m, List.mem_singleton.2 rfl, rfl⟩⟩
      · rw [if_neg h_type]
        refine ⟨fun msg h_msg h_master => ?_, Or.inl rfl⟩
        rw [List.mem_singleton.1 h_msg] at h_master
        exact absurd h_master h_type

/-- What the notes of a step are, where no episode begins. -/
theorem noteEpisode_sent (c : Config) (e : Env) (ev : AgentEvent) (ep : Episode)
    (h : ¬ (a.repeater.isActive = false ∧ a'.repeater.isActive = true)) :
    (noteEpisode c a (e, ev) a' ep).sent =
      (match ev with
        | .timer t _ =>
            if t = .sendSync ∧ a.kind = .sendControlSync then a.controlMessage c e else []
        | _ => []) ++ ep.sent := by
  unfold noteEpisode
  rw [if_neg h]
  cases ev with
  | timer t x =>
      dsimp only
      split
      · rfl
      · split <;> rfl
  | _ => rfl

theorem MasterSyncsKept.note (h : MasterSyncsKept ep sent) (h_a : a.protocol.GranularityValid) :
    MasterSyncsKept (noteEpisode c a (e, ev) a' ep)
      (noteMasterSync c (a, ep) (e, ev) (a', noteEpisode c a (e, ev) a' ep) sent) := by
  by_cases h_begins : a.repeater.isActive = false ∧ a'.repeater.isActive = true
  · unfold noteMasterSync
    rw [noteEpisode_begins h_begins.1 h_begins.2, if_pos h_begins]
    exact ⟨fun msg h_msg => absurd h_msg List.not_mem_nil,
      fun msg h_msg => absurd h_msg List.not_mem_nil, Or.inl rfl⟩
  have h_ep := noteEpisode_sent c e ev ep h_begins
  have h_none : ∀ {ep' : Episode}, ep'.sent = ep.sent → MasterSyncsKept ep' sent := by
    intro ep' h_same
    exact h.append [] [] h_same
      (fun msg h_msg => absurd h_msg List.not_mem_nil)
      (fun msg h_msg => absurd h_msg List.not_mem_nil) (Or.inr (Or.inl rfl))
  unfold noteMasterSync
  rw [if_neg h_begins]
  cases ev with
  | timer t x =>
      dsimp only at h_ep ⊢
      by_cases h_control : t = .sendSync ∧ a.kind = .sendControlSync
      · rw [if_pos h_control] at h_ep
        rw [if_pos ⟨h_control.1, Or.inl h_control.2⟩]
        obtain ⟨h_cs, h_first⟩ := Agent.masterSync_of_control (c := c) (e := e) h_control.2
        exact h.append _ _ h_ep (fun msg => a.masterSync_valid h_a) h_cs (Or.inr h_first)
      · rw [if_neg h_control] at h_ep
        by_cases h_send : t = .sendSync ∧ (a.kind = .sendControlSync ∨ sent ≠ [])
        · rw [if_pos h_send]
          refine h.append _ [] h_ep (fun msg => a.masterSync_valid h_a)
            (fun msg h_msg => absurd h_msg List.not_mem_nil) (Or.inl ?_)
          exact h_send.2.resolve_left fun h_kind => h_control ⟨h_send.1, h_kind⟩
        · rw [if_neg h_send]
          exact h_none h_ep
  | _ => exact h_none h_ep

theorem announcementSystem_kept {w : (Agent × Episode) × List SyncMessage}
    (h : (announcementSystem c).Reachable w) : MasterSyncsKept w.1.2 w.2 := by
  refine System.Reachable.watched_invariant (fun w sent => MasterSyncsKept w.2 sent)
    h.guarded_true ?_ ?_
  · rintro ⟨a, ep⟩ ⟨-, rfl⟩
    exact ⟨fun msg h_msg => absurd h_msg List.not_mem_nil,
      fun msg h_msg => absurd h_msg List.not_mem_nil, Or.inl rfl⟩
  · rintro ⟨a, ep⟩ sent ⟨e, ev⟩ ⟨a', ep'⟩ h_reach h_w - - h_step
    obtain ⟨-, h_note⟩ := System.watched_step_eq_ok.1 h_step
    obtain rfl : ep' = noteEpisode c a (e, ev) a' ep := h_note
    exact h_w.note (agentSystem_granularityValid h_reach.unwatched)

end Announcements

-- ============================================================================
-- The step that takes the action
-- ============================================================================

/-- What is known of a step that completes an announcement. -/
structure Enacted (c : Config) (t : AnnouncementMove) : Prop where
  isMaster : t.after.1.1.protocol.isSelfMaster c = true
  granularity : t.after.1.1.protocol.granularity =
    t.before.1.1.protocol.intraClique.granularity
  valid : t.after.1.1.protocol.granularity ≠ .invalid
  sentValid : ∀ msg ∈ t.before.2, msg.type = .masterSync ∧ msg.granularity ≠ .invalid
  announced : ∀ msg ∈ t.before.1.2.sent, msg ∈ t.before.2
  first : ∃ msg ∈ t.before.1.2.sent, ∃ later, t.before.2 = later ++ [msg]
  carried : ∀ msg ∈ t.before.1.2.sent, msg.work = t.after.1.1.repeater.aValue

section Steps

variable {c : Config} {e : Env} {a a' : Agent} {ev : AgentEvent} {t : AnnouncementMove}

theorem Agent.ControlStep.of_enacts (h_step : Agent.ControlStep c e a ev a')
    (h : a.EnactsGranularity (e, ev)) :
    ¬ a.SendsControl ∧ a.protocol.preludeToSyncPeriod.finished.onDone c e
      .onDoneGranularityWithAction = .ok a'.protocol := by
  obtain ⟨h_given, h_count, h_callback⟩ := h
  cases h_step with
  | counts _ _ h_lt => exact absurd h_lt (Nat.not_lt_of_le h_count)
  | finishes _ h_before _ h_done =>
      have h_onDone : a.protocol.intraClique.repeater.onDoneCallback =
        .onDoneGranularityWithAction := h_callback
      rw [h_onDone] at h_done
      exact ⟨h_before, h_done⟩
  | sends => exact absurd rfl (not_sendSync_of_gives h_given)
  | rests _ h_not =>
      rw [h_given] at h_not
      cases h_not
  | changes h_ev =>
      cases ev with
      | timer t x => exact absurd rfl (h_ev t x)
      | _ => cases h_given

/-- The messages of the episode are MasterSyncs with the value that is repeated, and
    there are some. -/
theorem EpisodeKept.of_enacts {ep : Episode} (h : EpisodeKept a ep)
    (h_a : a.protocol.GranularityValid) (h_enacts : a.EnactsGranularity (e, ev))
    (h_before : ¬ a.SendsControl) :
    ep.sent ≠ [] ∧ ∀ msg ∈ ep.sent, msg.type = .masterSync ∧ msg.work = a.repeater.aValue := by
  obtain ⟨h_given, h_count, h_callback⟩ := h_enacts
  have h_active : a.repeater.isActive = true := by
    cases ev with
    | timer t x => exact active_of_gives h_given
    | _ => cases h_given
  have h_on : a.repeater.isActive ≠ false := by
    rw [h_active]
    exact Bool.noConfusion
  cases h.phase with
  | repeats _ _ h_held _ h_counter =>
      refine ⟨fun h_nil => ?_, fun msg h_msg => ?_⟩
      · rw [h_counter, h_nil] at h_count
        exact absurd h_count (by decide)
      · obtain ⟨h_type, h_work⟩ := h.carried msg h_msg
        rw [h_type, h_work, ← h_held.1, ← h_held.2]
        exact ⟨h_a.downstream h_callback, rfl⟩
  | sending _ h_sends => exact absurd h_sends h_before
  | sendingLast h_idle => exact absurd h_idle h_on
  | enacted h_idle => exact absurd h_idle h_on
  | closed h_idle => exact absurd h_idle h_on

theorem enacted_of_step (h_reach : (announcementSystem c).Reachable t.before)
    (h_en : (announcementSystem c).enabled t.before t.label)
    (h_step : (announcementSystem c).step t.before t.label = .ok t.after)
    (h_enacts : t.before.1.1.EnactsGranularity t.label) : Enacted c t := by
  obtain ⟨⟨⟨a, ep⟩, sent⟩, ⟨e, ev⟩, ⟨⟨a', ep'⟩, sent'⟩⟩ := t
  have h_agent : (agentSystem c).Reachable a := h_reach.unwatched.unwatched
  have h_valid := agentSystem_granularityValid h_agent
  have h_next : stepAgent c a e ev = .ok a' :=
    (System.watched_step_eq_ok.1 (System.watched_step_eq_ok.1 h_step).1).1
  have h_controls := (Agent.stepAgent_step (agentSystem_oneTask h_agent.guarded_true) h_en.2
    h_next).controls
  obtain ⟨h_before, h_done⟩ := h_controls.of_enacts h_enacts
  obtain ⟨h_master, x, h_protocol⟩ := Protocol.onDone_granularity h_done
  have h_sent : ep.sent ≠ [] ∧ ∀ msg ∈ ep.sent, msg.type = .masterSync ∧
      msg.work = a.repeater.aValue :=
    (episodeSystem_kept h_reach.unwatched).of_enacts h_valid h_enacts h_before
  have h_kept : MasterSyncsKept ep sent := announcementSystem_kept h_reach
  have h_granularity : a'.protocol.granularity = a.protocol.intraClique.granularity := by
    rw [h_protocol]
    exact Granularity.tried_of_valid h_valid.remembered
  have h_in : ∀ msg ∈ ep.sent, msg ∈ sent := fun msg h_msg =>
    h_kept.announced msg h_msg (h_sent.2 msg h_msg).1
  refine ⟨?_, h_granularity, ?_, h_kept.valid, h_in, ?_, fun msg h_msg => ?_⟩
  · show a'.protocol.isSelfMaster c = true
    rw [h_protocol]
    exact h_master
  · show a'.protocol.granularity ≠ .invalid
    rw [h_granularity]
    exact h_valid.remembered
  · refine h_kept.first.resolve_left fun h_nil => ?_
    obtain ⟨msg, h_msg⟩ := List.exists_mem_of_ne_nil _ h_sent.1
    have h_mem := h_in msg h_msg
    rw [h_nil] at h_mem
    cases h_mem
  · have h_same : a'.repeater.aValue = a.repeater.aValue := by
      unfold Agent.repeater
      rw [h_protocol]
      rfl
    show msg.work = a'.repeater.aValue
    rw [h_same]
    exact (h_sent.2 msg h_msg).2

/-- An ordinary MasterSync of a unit can be built after the end of its period. -/
theorem exists_sendMasterSync (c : Config) (p : Protocol) :
    ∃ e msg, p.sendMasterSync c e = .ok msg := by
  refine ⟨Env.quiet p.schedule.timeOfNextSyncPoint,
    Protocol.initSyncMessage_ok _ rfl ?_⟩
  have h_past : p.schedule.deltaNowToNextSyncPoint c.tm p.schedule.timeOfNextSyncPoint = 0 :=
    c.tm.fromNow_of_past (Nat.le_refl _)
  have h_quiet : (Env.quiet p.schedule.timeOfNextSyncPoint).now =
      p.schedule.timeOfNextSyncPoint := rfl
  unfold Protocol.syncOffset
  rw [h_quiet, h_past, c.tm.clampedSubtraction_eq, Nat.zero_sub]
  exact Nat.zero_le _

theorem Enacted.agrees (h : Enacted c t) (h_medium : AllMedium t.before) :
    GranularityAgrees c t := by
  intro cS q q' before after _ h_hears h_before h_after h_some
  have h_g : t.after.1.1.protocol.granularity = .medium := h.granularity.trans h_medium.remembered
  rw [h_g]
  refine h_hears.granularity_of_all NetGranularity.noConfusion (fun msg h_msg => ?_) ?_
  · rcases List.mem_append.1 h_msg with h_b | h_a
    · exact h_medium.sent msg (h_before.subset (List.mem_reverse.2 h_b))
    · rcases h_after msg h_a with ⟨e, h_last⟩ | ⟨b, e, -, -, h_same, h_ordinary⟩
      · obtain ⟨first, h_first, -⟩ := h.first
        have h_said := h_medium.sent first (h.announced first h_first)
        unfold SyncMessage.granularity at h_said ⊢
        rw [h.carried first h_first] at h_said
        rw [(sendControlSync_eq_ok h_last).2.1]
        exact h_said
      · unfold SyncMessage.granularity
        rw [(sendMasterSync_eq_ok h_ordinary).2, h_same, h_g]
        rfl
  · obtain ⟨msg, h_msg, -⟩ := h_some
    exact List.ne_nil_of_mem h_msg

/-- Slaves that hear the first message of the announcement, alone or with one more,
    show what the granularities have to be. -/
theorem Enacted.allMedium (h : Enacted c t) (h_agrees : GranularityAgrees c t) :
    AllMedium t.before := by
  obtain ⟨first, h_first, later, h_sent⟩ := h.first
  have h_heard : ∀ (before after init : List SyncMessage) (msg : SyncMessage),
      before ++ after = init ++ [msg] → first ∈ before → before.reverse.Sublist t.before.2 →
      (∀ m ∈ after, m.type = .masterSync ∧ t.after.1.1.SendsOrdinary c m) →
      msg.granularity ≠ .invalid → msg.granularity = t.after.1.1.protocol.granularity := by
    intro before after init msg h_eq h_mem h_before h_after h_valid
    have h_types : ∀ m ∈ init ++ [msg], m.type = .masterSync := by
      intro m h_m
      rw [← h_eq] at h_m
      rcases List.mem_append.1 h_m with h_b | h_a
      · exact (h.sentValid m (h_before.subset (List.mem_reverse.2 h_b))).1
      · exact (h_after m h_a).1
    obtain ⟨cS, q, q', h_q, -, h_hears⟩ := exists_hearsAsSlave c h_types
    have h_last := h_hears.granularity_last h_valid
    rw [← h_eq] at h_hears
    rw [← h_last]
    exact h_agrees cS q q' before after h_q h_hears h_before
      (fun m h_m => Or.inr (h_after m h_m).2)
      ⟨first, List.mem_append_left _ h_mem, Or.inl h_first⟩
  have h_nothing : ∀ m ∈ ([] : List SyncMessage), m.type = .masterSync ∧
      t.after.1.1.SendsOrdinary c m := fun m h_m => absurd h_m List.not_mem_nil
  -- afterwards: an ordinary MasterSync of the new granularity is read as it
  have h_medium : t.after.1.1.protocol.granularity = .medium := by
    obtain ⟨e, msg, h_msg⟩ := exists_sendMasterSync c t.after.1.1.protocol
    obtain ⟨h_type, h_work⟩ := sendMasterSync_eq_ok h_msg
    have h_said : msg.granularity =
        Granularity.getFromRaw (Granularity.getRaw t.after.1.1.protocol.granularity) :=
      congrArg Granularity.getFromRaw h_work
    have h_ordinary : t.after.1.1.SendsOrdinary c msg :=
      ⟨t.after.1.1, e, Relation.ReflTransGen.refl, h.isMaster, rfl, h_msg⟩
    have h_after : ∀ m ∈ [msg], m.type = .masterSync ∧ t.after.1.1.SendsOrdinary c m := by
      intro m h_m
      rw [List.mem_singleton.1 h_m]
      exact ⟨h_type, h_ordinary⟩
    have h_valid := Granularity.getFromRaw_getRaw_ne_invalid h.valid
    rw [← h_said] at h_valid
    have h_same := h_heard [first] [msg] [first] msg rfl (List.mem_singleton.2 rfl)
      (List.singleton_sublist.2 (h.announced first h_first)) h_after h_valid
    rw [h_said] at h_same
    exact ((Granularity.getFromRaw_getRaw_iff _).1 h_same).resolve_right h.valid
  refine ⟨h.granularity.symm.trans h_medium, fun msg h_msg => ?_⟩
  rw [← h_medium]
  rw [h_sent] at h_msg
  rcases List.mem_append.1 h_msg with h_later | h_last
  · have h_pair : [msg, first].Sublist t.before.2 := by
      rw [h_sent]
      exact (List.singleton_sublist.2 h_later).append (List.Sublist.refl [first])
    refine h_heard [first, msg] [] [first] msg rfl List.mem_cons_self h_pair h_nothing
      (h.sentValid msg ?_).2
    rw [h_sent]
    exact List.mem_append_left _ h_later
  · rw [List.mem_singleton.1 h_last]
    have h_valid := h.sentValid first (h.announced first h_first)
    exact h_heard [first] [] [] first rfl (List.mem_singleton.2 rfl)
      (List.singleton_sublist.2 (h.announced first h_first)) h_nothing h_valid.2

/-- For the step that completes it, an announcement is heard as it is set exactly if
    it is all medium. -/
theorem enacted_agrees_iff (h : Enacted c t) : GranularityAgrees c t ↔ AllMedium t.before :=
  ⟨h.allMedium, h.agrees⟩

end Steps

/-- In every run: with each announcement that is completed, the slaves that have heard
    of it have the granularity of the master and keep it, exactly if medium is
    remembered and all that has been sent since its first message is medium. -/
theorem granularity_agrees_iff {c : Config}
    {w : ((Agent × Episode) × List SyncMessage) × List AnnouncementMove}
    (h : (announcementSystem c).recorded.Reachable w) :
    (∀ t ∈ w.2, t.before.1.1.EnactsGranularity t.label → GranularityAgrees c t) ↔
      ∀ t ∈ w.2, t.before.1.1.EnactsGranularity t.label → AllMedium t.before := by
  refine h.recorded_congr fun t h_reach h_en h_step => ?_
  exact forall_congr' fun h_enacts =>
    enacted_agrees_iff (enacted_of_step h_reach h_en h_step h_enacts)

-- ============================================================================
-- Medium, and small
-- ============================================================================

/-- Unit five is told by a slave what to announce, and announces it. -/
def announces (request : SyncMessage) : List (Env × AgentEvent) :=
  [weakly .startSyncPeriodMaintain 0,
    weakly .theRadioPreludeTaskWSync 79950,
    weakly .startSyncSlotAfterPrelude 80000,
    arrives 80020 request,
    weakly .endSyncSlotListen 80050] ++
  ((List.range 4).flatMap fun i =>
    slotForControl (80000 * (i + 2)) ++ sendsInSlot (80000 * (i + 2))) ++
  slotForControl 480000

def asksForSmall : SyncMessage := { asksForMedium with work := 2 }

def unitFiveSilent : ((Agent × Episode) × List SyncMessage) × List AnnouncementMove :=
  (((Agent.boot unitFive 0 0, Episode.none), []), [])

theorem unitFiveSilent_init : (announcementSystem unitFive).recorded.init unitFiveSilent :=
  ⟨⟨⟨⟨0, 0, Nat.le_refl 0, rfl⟩, rfl⟩, rfl⟩, rfl⟩

instance (w : (Agent × Episode) × List SyncMessage) : Decidable (AllMedium w) :=
  decidable_of_iff (w.1.1.protocol.intraClique.granularity = .medium ∧
    ∀ msg ∈ w.2, msg.granularity = .medium)
    ⟨fun h => ⟨h.1, h.2⟩, fun h => ⟨h.remembered, h.sent⟩⟩

instance (c : Config) (w : ((Agent × Episode) × List SyncMessage) × List AnnouncementMove)
    (l : Env × AgentEvent) : Decidable ((announcementSystem c).recorded.enabled w l) :=
  inferInstanceAs (Decidable ((agentSystem c).enabled w.1.1.1 l))

/-- Medium is agreed on. -/
theorem granularity_agrees_iff_medium :
    ∃ w, (announcementSystem unitFive).recorded.Reachable w ∧
      (∃ t ∈ w.2, t.before.1.1.EnactsGranularity t.label) ∧
      ∀ t ∈ w.2, t.before.1.1.EnactsGranularity t.label → GranularityAgrees unitFive t := by
  obtain ⟨w, h, h_some, h_medium⟩ :=
    System.Reachable.exists_of_play
      (P := fun w => (∃ t ∈ w.2, t.before.1.1.EnactsGranularity t.label) ∧
        ∀ t ∈ w.2, t.before.1.1.EnactsGranularity t.label → AllMedium t.before)
      (announces asksForMedium) unitFiveSilent_init (by decide +kernel)
  exact ⟨w, h, h_some, (granularity_agrees_iff h).2 h_medium⟩

/-- Small is announced as large: the master becomes small without its slaves. -/
theorem granularity_small_not_agreed :
    ∃ w, (announcementSystem unitFive).recorded.Reachable w ∧
      w.1.1.1.protocol.granularity = .small ∧ (∀ msg ∈ w.1.2, msg.granularity = .large) ∧
      ¬ ∀ t ∈ w.2, t.before.1.1.EnactsGranularity t.label → GranularityAgrees unitFive t := by
  obtain ⟨w, h, h_small, h_large, t, h_t, h_enacts, h_not⟩ :=
    System.Reachable.exists_of_play
      (P := fun w => w.1.1.1.protocol.granularity = .small ∧
        (∀ msg ∈ w.1.2, msg.granularity = .large) ∧
        ∃ t ∈ w.2, t.before.1.1.EnactsGranularity t.label ∧ ¬ AllMedium t.before)
      (announces asksForSmall) unitFiveSilent_init (by decide +kernel)
  refine ⟨w, h, h_small, h_large, fun h_agrees => h_not ?_⟩
  obtain ⟨h_reach, h_en, h_step⟩ := h.recorded_moves t h_t
  exact (enacted_of_step h_reach h_en h_step h_enacts).allMedium (h_agrees t h_t h_enacts)

end SleepSync
