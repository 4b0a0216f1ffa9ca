/-
  SleepSync.EpisodeIntegrity

  Whether a control message is sent as often as it has to be before its action is
  taken, and whether it can be built.

  The check whether this was the last repetition asks for more repetitions than
  the policy has, and it comes before the message is sent: the action is taken at
  the start of the fifth sync slot of an episode, with the fifth message still to
  be sent.  And the messages about work are of no type that carries sync, so that
  their building stops at an assertion.

  So the episodes of a run are as they should be exactly if none gets a fifth sync
  slot and none is about work.
-/

import SleepSync.ControlEpisode
import SleepSync.Lib.Watch

namespace SleepSync

open Lib ScheduleParameters

-- ============================================================================
-- What is remembered of an episode
-- ============================================================================

/-- The episode that was begun last. -/
structure Episode where
  messageType : MessageType
  aValue : Payload
  /-- the control messages sent in it, latest first -/
  sent : List SyncMessage
  /-- the on-done callback has been called -/
  isEnacted : Bool
  deriving DecidableEq

namespace Episode

/-- Before the first. -/
def none : Episode where
  messageType := .invalid
  aValue := 0
  sent := []
  isEnacted := false

def begun (r : SendRepeater) : Episode where
  messageType := r.messageType
  aValue := r.aValue
  sent := []
  isEnacted := false

/-- The repeater holds the message of the episode. -/
def IsHeldBy (ep : Episode) (r : SendRepeater) : Prop :=
  r.messageType = ep.messageType ∧ r.aValue = ep.aValue

/-- A message is the one of the episode. -/
def IsMessage (ep : Episode) (msg : SyncMessage) : Prop :=
  msg.type = ep.messageType ∧ msg.work = ep.aValue

instance (ep : Episode) (msg : SyncMessage) : Decidable (ep.IsMessage msg) :=
  inferInstanceAs (Decidable (_ ∧ _))

end Episode

namespace Agent

variable (c : Config) (e : Env) (a : Agent)

/-- The control message of the sync slot, if it can be built. -/
def controlMessage : List SyncMessage :=
  match a.protocol.sendControlSync c e with
  | .ok msg => [msg]
  | .error _ => []

end Agent

/-- A start of the repeater begins an episode.  No task aborts one, so a task after
    which the repeater is not active any more has called the callback. -/
def noteEpisode (c : Config) (a : Agent) (l : Env × AgentEvent) (a' : Agent) (ep : Episode) :
    Episode :=
  if a.repeater.isActive = false ∧ a'.repeater.isActive = true then
    Episode.begun a'.repeater
  else
    match l.2 with
    | .timer t _ =>
        if t = .sendSync ∧ a.kind = .sendControlSync then
          { ep with sent := a.controlMessage c l.1 ++ ep.sent }
        else if a.repeater.isActive = true ∧ a'.repeater.isActive = false then
          { ep with isEnacted := true }
        else ep
    | _ => ep

/-- A unit with its last episode. -/
def episodeSystem (c : Config) : System (Agent × Episode) (Env × AgentEvent) TaskFault :=
  (agentSystem c).watched Episode.none (noteEpisode c)

abbrev EpisodeMove := Move (Agent × Episode) (Env × AgentEvent)

/-- What an episode has to be: as many messages as the policy has repetitions
    before the action and none after it, each of them built, and with the type and
    the value of the episode. -/
structure EpisodeIntact (c : Config) (w : Agent × Episode) : Prop where
  carried : ∀ msg ∈ w.2.sent, w.2.IsMessage msg
  atMost : w.2.sent.length ≤ Policy.countRepeatsPerControlSync
  complete : w.2.isEnacted = true → w.2.sent.length = Policy.countRepeatsPerControlSync
  built : ∀ e x, (agentSystem c).enabled w.1 (e, .timer .sendSync x) →
    w.1.kind = .sendControlSync →
      w.2.isEnacted = false ∧ ∃ msg, w.1.protocol.sendControlSync c e = .ok msg ∧
        w.2.IsMessage msg

/-- A sync slot that is given to control is one of the first four of its episode,
    and the message carries sync. -/
def Agent.StaysWithinRepeats (a : Agent) (l : Env × AgentEvent) : Prop :=
  a.givesSlotToControl l.1 l.2 = true →
    a.repeater.counter < Policy.countRepeatsPerControlSync ∧
      a.repeater.messageType.doesCarrySync = true

instance (a : Agent) (l : Env × AgentEvent) : Decidable (a.StaysWithinRepeats l) :=
  inferInstanceAs (Decidable (_ → _))

-- ============================================================================
-- The phases of an episode
-- ============================================================================

/-- Where an episode is: its messages sent, and what is still to come. -/
inductive EpisodePhase (a : Agent) (ep : Episode) : Prop
  /-- between the sync slots that are given to the message -/
  | repeats (h_active : a.repeater.isActive = true) (h_sends : ¬ a.SendsControl)
      (h_held : ep.IsHeldBy a.repeater) (h_open : ep.isEnacted = false)
      (h_counter : a.repeater.counter = ep.sent.length)
      (h_le : ep.sent.length ≤ Policy.countRepeatsPerControlSync)
  /-- a message waits to be sent, and is counted -/
  | sending (h_active : a.repeater.isActive = true) (h_sends : a.SendsControl)
      (h_held : ep.IsHeldBy a.repeater) (h_open : ep.isEnacted = false)
      (h_counter : a.repeater.counter = ep.sent.length + 1)
      (h_lt : ep.sent.length < Policy.countRepeatsPerControlSync)
      (h_end : a.protocol.schedule.endTimeOfSyncPeriod =
        a.protocol.schedule.unadjustedEndTimeOfSyncPeriod)
  /-- the action is taken, with a message still to be sent -/
  | sendingLast (h_idle : a.repeater.isActive = false) (h_sends : a.SendsControl)
      (h_held : ep.IsHeldBy a.repeater) (h_enacted : ep.isEnacted = true)
      (h_count : ep.sent.length = Policy.countRepeatsPerControlSync)
  | enacted (h_idle : a.repeater.isActive = false) (h_sends : ¬ a.SendsControl)
      (h_enacted : ep.isEnacted = true)
      (h_count : ep.sent.length = Policy.countRepeatsPerControlSync + 1)
  /-- aborted, or none has been begun -/
  | closed (h_idle : a.repeater.isActive = false) (h_sends : ¬ a.SendsControl)
      (h_open : ep.isEnacted = false)
      (h_le : ep.sent.length ≤ Policy.countRepeatsPerControlSync)

/-- What holds of the last episode in every run. -/
structure EpisodeKept (a : Agent) (ep : Episode) : Prop where
  carried : ∀ msg ∈ ep.sent, ep.IsMessage msg
  phase : EpisodePhase a ep

section OneStep

variable {c : Config} {e : Env} {a a' : Agent} {ep : Episode} {ev : AgentEvent}

theorem sendControlSync_eq_ok {p : Protocol} {msg : SyncMessage}
    (h : p.sendControlSync c e = .ok msg) :
    msg.type = p.intraClique.repeater.messageType ∧
      msg.work = p.intraClique.repeater.aValue ∧ msg.masterID = p.masterID ∧
      msg.type.doesCarrySync = true := by
  obtain ⟨h_carries, h_type, h_master, -⟩ := Protocol.initSyncMessage_eq_ok h
  have h_work := Protocol.initSyncMessage_work h
  rw [← h_type] at h_carries
  exact ⟨h_type, h_work, h_master, h_carries⟩

/-- It is built where its type carries sync and the sync point is in range. -/
theorem sendControlSync_ok {p : Protocol}
    (h_carries : p.intraClique.repeater.messageType.doesCarrySync = true)
    (h_le : p.syncOffset c e ≤ normalSyncPeriodDuration) :
    ∃ msg, p.sendControlSync c e = .ok msg :=
  Protocol.initSyncMessage_ok _ h_carries h_le

theorem noteEpisode_kept (h_same : a'.repeater.isActive = a.repeater.isActive)
    (h_ev : ∀ x, ev = .timer .sendSync x → a.kind ≠ .sendControlSync) :
    noteEpisode c a (e, ev) a' ep = ep := by
  have h_not : ¬ (a.repeater.isActive = false ∧ a'.repeater.isActive = true) := by
    rw [h_same]
    rintro ⟨h_off, h_on⟩
    rw [h_off] at h_on
    cases h_on
  unfold noteEpisode
  rw [if_neg h_not]
  cases ev with
  | timer t x =>
      have h_send : ¬ (t = .sendSync ∧ a.kind = .sendControlSync) := by
        rintro ⟨rfl, h_kind⟩
        exact h_ev x rfl h_kind
      have h_done : ¬ (a.repeater.isActive = true ∧ a'.repeater.isActive = false) := by
        rw [h_same]
        rintro ⟨h_on, h_off⟩
        rw [h_on] at h_off
        cases h_off
      dsimp only
      rw [if_neg h_send, if_neg h_done]
  | _ => rfl

theorem not_sendSync_of_gives {t : Task} {x : Nat}
    (h : a.givesSlotToControl e (.timer t x) = true) : t ≠ .sendSync := by
  rcases (of_decide_eq_true h).1 with rfl | rfl <;> exact Task.noConfusion

theorem active_of_gives {t : Task} {x : Nat}
    (h : a.givesSlotToControl e (.timer t x) = true) : a.repeater.isActive = true :=
  (of_decide_eq_true h).2.2.1

theorem noteEpisode_finishes {t : Task} {x : Nat}
    (h_given : a.givesSlotToControl e (.timer t x) = true)
    (h_idle : a'.repeater.isActive = false) :
    noteEpisode c a (e, .timer t x) a' ep = { ep with isEnacted := true } := by
  have h_active := active_of_gives h_given
  unfold noteEpisode
  rw [h_active, h_idle, if_neg (fun h => Bool.false_ne_true h.2)]
  dsimp only
  rw [if_neg (fun h => not_sendSync_of_gives h_given h.1), if_pos ⟨rfl, rfl⟩]

theorem noteEpisode_sends {x : Nat} {msg : SyncMessage} (h_kind : a.kind = .sendControlSync)
    (h_msg : a.protocol.sendControlSync c e = .ok msg)
    (h_same : a'.repeater.isActive = a.repeater.isActive) :
    noteEpisode c a (e, .timer .sendSync x) a' ep = { ep with sent := msg :: ep.sent } := by
  have h_not : ¬ (a.repeater.isActive = false ∧ a'.repeater.isActive = true) := by
    rw [h_same]
    rintro ⟨h_off, h_on⟩
    rw [h_off] at h_on
    cases h_on
  unfold noteEpisode
  rw [if_neg h_not]
  dsimp only
  rw [if_pos ⟨rfl, h_kind⟩]
  unfold Agent.controlMessage
  rw [h_msg]
  rfl

theorem noteEpisode_begins (h_idle : a.repeater.isActive = false)
    (h_active : a'.repeater.isActive = true) :
    noteEpisode c a (e, ev) a' ep = Episode.begun a'.repeater := by
  unfold noteEpisode
  rw [if_pos ⟨h_idle, h_active⟩]

/-- Nothing of the episode changes where neither the repeater does nor a control
    message comes to wait or to be sent. -/
theorem EpisodeKept.of_same (h : EpisodeKept a ep) (h_same : a'.repeater = a.repeater)
    (h_before : ¬ a.SendsControl) (h_after : ¬ a'.SendsControl) : EpisodeKept a' ep where
  carried := h.carried
  phase := by
    cases h.phase with
    | repeats h_active _ h_held h_open h_counter h_le =>
        rw [← h_same] at h_active h_held h_counter
        exact EpisodePhase.repeats h_active h_after h_held h_open h_counter h_le
    | sending _ h_sends => exact absurd h_sends h_before
    | sendingLast _ h_sends => exact absurd h_sends h_before
    | enacted h_idle _ h_enacted h_count =>
        rw [← h_same] at h_idle
        exact EpisodePhase.enacted h_idle h_after h_enacted h_count
    | closed h_idle _ h_open h_le =>
        rw [← h_same] at h_idle
        exact EpisodePhase.closed h_idle h_after h_open h_le

/-- The repeater of a step that gives no slot to control and sends none. -/
theorem EpisodeKept.of_change {event : ProtocolEvent} (h : EpisodeKept a ep)
    (h_ev : ∀ t x, ev ≠ .timer t x) (h_event : event ≠ .dispatchSyncSlotKind)
    (h_before : ¬ a.SendsControl) (h_after : ¬ a'.SendsControl)
    (h_change : EpisodeChange c a.protocol event a'.protocol.intraClique) :
    EpisodeKept a' (noteEpisode c a (e, ev) a' ep) := by
  have h_kept : a'.repeater.isActive = a.repeater.isActive →
      noteEpisode c a (e, ev) a' ep = ep :=
    fun h_same => noteEpisode_kept h_same fun x h_timer => absurd h_timer (h_ev _ x)
  generalize h_i : a'.protocol.intraClique = i at h_change
  have h_r : a'.repeater = i.repeater := by rw [← h_i]; rfl
  cases h_change with
  | kept =>
      have h_same : a'.repeater = a.repeater := h_r
      rw [h_kept (by rw [h_same])]
      exact h.of_same h_same h_before h_after
  | requested k =>
      rw [k.start_repeater] at h_r
      by_cases h_active : a.repeater.isActive = true
      · have h_same : a'.repeater = a.repeater := by
          rw [h_r]
          exact if_pos h_active
        rw [h_kept (by rw [h_same])]
        exact h.of_same h_same h_before h_after
      · have h_start : a'.repeater = k.repeater := by
          rw [h_r]
          exact if_neg h_active
        have h_on : a'.repeater.isActive = true := by
          rw [h_start]
          rfl
        rw [noteEpisode_begins (eq_false_of_ne_true h_active) h_on]
        refine ⟨fun msg h_mem => absurd h_mem List.not_mem_nil, ?_⟩
        refine EpisodePhase.repeats h_on h_after ⟨rfl, rfl⟩ rfl ?_ (Nat.zero_le _)
        rw [h_start]
        rfl
  | aborted =>
      have h_off : a'.repeater.isActive = false := by
        rw [h_r]
        rfl
      have h_note : noteEpisode c a (e, ev) a' ep = ep := by
        unfold noteEpisode
        rw [h_off, if_neg (fun h_on => Bool.false_ne_true h_on.2)]
        cases ev with
        | timer t x => exact absurd rfl (h_ev t x)
        | _ => rfl
      rw [h_note]
      refine ⟨h.carried, ?_⟩
      cases h.phase with
      | repeats _ _ _ h_open _ h_le => exact EpisodePhase.closed h_off h_after h_open h_le
      | sending _ h_sends => exact absurd h_sends h_before
      | sendingLast _ h_sends => exact absurd h_sends h_before
      | enacted _ _ h_enacted h_count =>
          exact EpisodePhase.enacted h_off h_after h_enacted h_count
      | closed _ _ h_open h_le => exact EpisodePhase.closed h_off h_after h_open h_le
  | counted => exact absurd rfl h_event
  | finished => exact absurd rfl h_event

/-- The phase of an episode whose message is active, and does not wait to be sent. -/
theorem EpisodePhase.of_active (h : EpisodePhase a ep) (h_active : a.repeater.isActive = true)
    (h_sends : ¬ a.SendsControl) :
    ep.IsHeldBy a.repeater ∧ ep.isEnacted = false ∧ a.repeater.counter = ep.sent.length ∧
      ep.sent.length ≤ Policy.countRepeatsPerControlSync := by
  cases h with
  | repeats _ _ h_held h_open h_counter h_le => exact ⟨h_held, h_open, h_counter, h_le⟩
  | sending _ h_yes => exact absurd h_yes h_sends
  | sendingLast h_idle => exact absurd h_active (ne_true_of_eq_false h_idle)
  | enacted h_idle => exact absurd h_active (ne_true_of_eq_false h_idle)
  | closed h_idle => exact absurd h_active (ne_true_of_eq_false h_idle)

/-- A sync slot is given to the message: it is counted. -/
theorem EpisodeKept.counted {t : Task} {x : Nat} (h : EpisodeKept a ep)
    (h_given : a.givesSlotToControl e (.timer t x) = true) (h_before : ¬ a.SendsControl)
    (h_count : a.protocol.intraClique.repeater.counter < Policy.countRepeatsPerControlSync)
    (h_protocol : a'.protocol = a.protocol.preludeToSyncPeriod.counted)
    (h_after : a'.SendsControl) :
    EpisodeKept a' (noteEpisode c a (e, .timer t x) a' ep) := by
  have h_active := active_of_gives h_given
  obtain ⟨h_held, h_open, h_counter, -⟩ := h.phase.of_active h_active h_before
  have h_counted : a'.repeater = { a.repeater with counter := a.repeater.counter + 1 } := by
    unfold Agent.repeater
    rw [h_protocol]
    rfl
  have h_on : a'.repeater.isActive = a.repeater.isActive := by rw [h_counted]
  have h_lt : ep.sent.length < Policy.countRepeatsPerControlSync := by
    rw [← h_counter]
    exact h_count
  rw [noteEpisode_kept h_on]
  · refine ⟨h.carried, ?_⟩
    refine EpisodePhase.sending (h_on.trans h_active) h_after ?_ h_open ?_ h_lt ?_
    · rw [h_counted]
      exact h_held
    · rw [h_counted, ← h_counter]
    · rw [h_protocol]
      rfl
  · intro y h_timer
    cases h_timer
    exact absurd rfl (not_sendSync_of_gives h_given)

/-- The last slot is given to it: its action is taken. -/
theorem EpisodeKept.finished {t : Task} {x : Nat} (h : EpisodeKept a ep)
    (h_given : a.givesSlotToControl e (.timer t x) = true) (h_before : ¬ a.SendsControl)
    (h_count : Policy.countRepeatsPerControlSync ≤ a.protocol.intraClique.repeater.counter)
    (h_done : a.protocol.preludeToSyncPeriod.finished.onDone c e
      a.protocol.intraClique.repeater.onDoneCallback = .ok a'.protocol)
    (h_after : a'.SendsControl) :
    EpisodeKept a' (noteEpisode c a (e, .timer t x) a' ep) := by
  obtain ⟨h_held, -, h_counter, h_le⟩ := h.phase.of_active (active_of_gives h_given) h_before
  have h_finished : a'.repeater = { a.repeater with isActive := false, counter := 0 } := by
    unfold Agent.repeater
    rw [Protocol.onDone_intraClique h_done]
    rfl
  have h_off : a'.repeater.isActive = false := by rw [h_finished]
  rw [noteEpisode_finishes h_given h_off]
  refine ⟨h.carried, EpisodePhase.sendingLast h_off h_after ?_ rfl ?_⟩
  · rw [h_finished]
    exact h_held
  · refine Nat.le_antisymm h_le ?_
    rw [← h_counter]
    exact h_count

/-- The message that waits is sent. -/
theorem EpisodeKept.sent {x : Nat} {msg : SyncMessage} (h : EpisodeKept a ep)
    (h_before : a.SendsControl) (h_msg : a.protocol.sendControlSync c e = .ok msg)
    (h_protocol : a'.protocol = a.protocol) (h_after : ¬ a'.SendsControl) :
    EpisodeKept a' (noteEpisode c a (e, .timer .sendSync x) a' ep) := by
  have h_same : a'.repeater = a.repeater := by
    unfold Agent.repeater
    rw [h_protocol]
  rw [noteEpisode_sends h_before.1 h_msg (by rw [h_same])]
  obtain ⟨h_type, h_work, -, -⟩ := sendControlSync_eq_ok h_msg
  have h_carried : ep.IsHeldBy a.repeater →
      ∀ m ∈ msg :: ep.sent, ({ ep with sent := msg :: ep.sent } : Episode).IsMessage m := by
    intro h_held
    exact List.forall_mem_cons.2
      ⟨⟨h_type.trans h_held.1, h_work.trans h_held.2⟩, h.carried⟩
  cases h.phase with
  | repeats _ h_not => exact absurd h_before h_not
  | sending h_active _ h_held h_open h_counter h_lt =>
      rw [← h_same] at h_active h_counter
      refine ⟨h_carried h_held, ?_⟩
      rw [← h_same] at h_held
      exact EpisodePhase.repeats h_active h_after h_held h_open h_counter h_lt
  | sendingLast h_idle _ h_held h_enacted h_count =>
      rw [← h_same] at h_idle
      refine ⟨h_carried h_held, EpisodePhase.enacted h_idle h_after h_enacted ?_⟩
      rw [← h_count]
      rfl
  | enacted _ h_not => exact absurd h_before h_not
  | closed _ h_not => exact absurd h_before h_not

theorem Agent.ControlStep.episodeKept (h_step : Agent.ControlStep c e a ev a')
    (h : EpisodeKept a ep) : EpisodeKept a' (noteEpisode c a (e, ev) a' ep) := by
  cases h_step with
  | counts h_given h_before h_count h_protocol h_after =>
      exact h.counted h_given h_before h_count h_protocol h_after
  | finishes h_given h_before h_count h_done h_after =>
      exact h.finished h_given h_before h_count h_done h_after
  | sends h_before h_msg h_protocol h_after => exact h.sent h_before h_msg h_protocol h_after
  | rests h_pending _ h_before h_same h_after =>
      have h_repeater : a'.repeater = a.repeater := congrArg IntraCliqueManager.repeater h_same
      rw [noteEpisode_kept (by rw [h_repeater])]
      · exact h.of_same h_repeater h_before h_after
      · intro y h_timer h_kind
        cases h_timer
        exact h_before ⟨h_kind, _, h_pending⟩
  | changes h_ev h_event h_before h_change h_after =>
      exact h.of_change h_ev h_event h_before h_after h_change

/-- A step that gives a sync slot to control either counts the message or takes the
    action. -/
theorem Agent.ControlStep.of_given (h_step : Agent.ControlStep c e a ev a') (ep : Episode)
    (h_given : a.givesSlotToControl e ev = true) :
    a'.SendsControl ∧ a'.repeater.messageType = a.repeater.messageType ∧
      (a.repeater.counter < Policy.countRepeatsPerControlSync ∨
        (noteEpisode c a (e, ev) a' ep).isEnacted = true) := by
  cases h_step with
  | counts _ _ h_count h_protocol h_after =>
      refine ⟨h_after, ?_, Or.inl h_count⟩
      unfold Agent.repeater
      rw [h_protocol]
      rfl
  | finishes _ _ _ h_done h_after =>
      have h_finished : a'.repeater = { a.repeater with isActive := false, counter := 0 } := by
        unfold Agent.repeater
        rw [Protocol.onDone_intraClique h_done]
        rfl
      refine ⟨h_after, by rw [h_finished], Or.inr ?_⟩
      rw [noteEpisode_finishes h_given (by rw [h_finished])]
  | sends => exact absurd rfl (not_sendSync_of_gives h_given)
  | rests _ h_not =>
      rw [h_given] at h_not
      cases h_not
  | changes h_ev =>
      cases ev with
      | timer t x => exact absurd rfl (h_ev t x)
      | _ => cases h_given

/-- No action has been taken, and a message that waits can be built. -/
structure EpisodeWithin (a : Agent) (ep : Episode) : Prop where
  isOpen : ep.isEnacted = false
  carries : a.SendsControl → a.repeater.messageType.doesCarrySync = true

theorem Agent.ControlStep.episodeWithin (h_step : Agent.ControlStep c e a ev a')
    (h_ok : a.StaysWithinRepeats (e, ev)) (h : EpisodeWithin a ep) :
    EpisodeWithin a' (noteEpisode c a (e, ev) a' ep) := by
  cases h_step with
  | counts h_given _ _ h_protocol =>
      have h_counted : a'.repeater = { a.repeater with counter := a.repeater.counter + 1 } := by
        unfold Agent.repeater
        rw [h_protocol]
        rfl
      rw [noteEpisode_kept (by rw [h_counted])]
      · refine ⟨h.isOpen, fun _ => ?_⟩
        rw [h_counted]
        exact (h_ok h_given).2
      · intro y h_timer
        cases h_timer
        exact absurd rfl (not_sendSync_of_gives h_given)
  | finishes h_given _ h_count =>
      exact absurd (h_ok h_given).1 (Nat.not_lt_of_le h_count)
  | sends h_before h_msg h_protocol h_after =>
      have h_same : a'.repeater = a.repeater := by
        unfold Agent.repeater
        rw [h_protocol]
      rw [noteEpisode_sends h_before.1 h_msg (by rw [h_same])]
      exact ⟨h.isOpen, fun h_sends => absurd h_sends h_after⟩
  | rests h_pending _ h_before h_same h_after =>
      have h_repeater : a'.repeater = a.repeater := congrArg IntraCliqueManager.repeater h_same
      rw [noteEpisode_kept (by rw [h_repeater])]
      · exact ⟨h.isOpen, fun h_sends => absurd h_sends h_after⟩
      · intro y h_timer h_kind
        cases h_timer
        exact h_before ⟨h_kind, _, h_pending⟩
  | changes h_ev _ _ _ h_after =>
      refine ⟨?_, fun h_sends => absurd h_sends h_after⟩
      unfold noteEpisode
      split
      · rfl
      · cases ev with
        | timer t x => exact absurd rfl (h_ev t x)
        | _ => exact h.isOpen

end OneStep

-- ============================================================================
-- Runs
-- ============================================================================

section Runs

variable {c : Config} {w : Agent × Episode}

theorem episodeSystem_kept (h : (episodeSystem c).Reachable w) : EpisodeKept w.1 w.2 := by
  refine System.Reachable.watched_invariant EpisodeKept h.guarded_true ?_ ?_
  · rintro a ⟨initTime, loopTime, -, rfl⟩
    refine ⟨fun msg h_mem => absurd h_mem List.not_mem_nil, ?_⟩
    refine EpisodePhase.closed rfl ?_ rfl (Nat.zero_le _)
    apply Agent.not_sendsControl_schedule
    · rfl
    · exact Task.noConfusion
  · rintro a ep ⟨e, ev⟩ a' h_reach h_a ⟨-, h_possible⟩ - h_step
    have h_one := agentSystem_oneTask h_reach.guarded_true
    exact (Agent.stepAgent_step h_one h_possible h_step).controls.episodeKept h_a

theorem episodeSystem_within
    (h : ((episodeSystem c).guarded (fun w l => w.1.StaysWithinRepeats l)).Reachable w) :
    EpisodeWithin w.1 w.2 := by
  refine System.Reachable.watched_invariant EpisodeWithin h ?_ ?_
  · rintro a ⟨initTime, loopTime, -, rfl⟩
    refine ⟨rfl, fun h_sends => ?_⟩
    refine absurd h_sends ?_
    apply Agent.not_sendsControl_schedule
    · rfl
    · exact Task.noConfusion
  · rintro a ep ⟨e, ev⟩ a' h_reach h_a ⟨-, h_possible⟩ h_ok h_step
    have h_one := agentSystem_oneTask h_reach.guarded_true
    exact (Agent.stepAgent_step h_one h_possible h_step).controls.episodeWithin h_ok h_a

/-- A message that waits to be sent in an unadjusted period has its sync point in
    range. -/
theorem syncOffset_le_of_sends {a : Agent} {e : Env} {x : Nat} (h : (agentSystem c).Reachable a)
    (h_clock : a.clock ≤ e.now) (h_pending : a.pending = [(.sendSync, x)])
    (h_end : a.protocol.schedule.endTimeOfSyncPeriod =
      a.protocol.schedule.unadjustedEndTimeOfSyncPeriod) :
    a.protocol.syncOffset c e ≤ normalSyncPeriodDuration := by
  have h_waits := (agentSystem_periodKept h).waiting _ x h_pending
  have h_period : a.protocol.InPeriod c e.now :=
    ⟨h_waits.bounds.resolve_right Task.noConfusion, Nat.le_trans h_waits.start h_clock,
      h_waits.mode⟩
  exact h_period.syncOffset_le h_end

/-- A message that waits is sent at some time. -/
theorem Agent.SendsControl.enabled {a : Agent} (h : a.SendsControl) :
    ∃ e x, (agentSystem c).enabled a (e, .timer .sendSync x) := by
  obtain ⟨-, x, h_pending⟩ := h
  refine ⟨Env.quiet (max a.clock x), x, Nat.le_max_left _ _, ?_, Nat.le_max_right _ _⟩
  rw [h_pending]
  exact List.mem_singleton.2 rfl

/-- With the action taken, a message that waits comes after it. -/
theorem not_intact_of_enacted (h_enacted : w.2.isEnacted = true) (h_sends : w.1.SendsControl) :
    ¬ EpisodeIntact c w := by
  intro h
  obtain ⟨e, x, h_enabled⟩ := h_sends.enabled (c := c)
  have h_open := (h.built e x h_enabled h_sends.1).1
  rw [h_enacted] at h_open
  cases h_open

theorem EpisodeWithin.intact (h : (episodeSystem c).Reachable w)
    (h_within : EpisodeWithin w.1 w.2) : EpisodeIntact c w := by
  obtain ⟨h_carried, h_phase⟩ := episodeSystem_kept h
  have h_open := h_within.isOpen
  have h_not : w.2.isEnacted ≠ true := by
    rw [h_open]
    exact Bool.false_ne_true
  refine ⟨h_carried, ?_, fun h_enacted => absurd h_enacted h_not, ?_⟩
  · cases h_phase with
    | repeats _ _ _ _ _ h_le => exact h_le
    | sending _ _ _ _ _ h_lt => exact Nat.le_of_lt h_lt
    | sendingLast _ _ _ h_enacted => exact absurd h_enacted h_not
    | enacted _ _ h_enacted => exact absurd h_enacted h_not
    | closed _ _ _ h_le => exact h_le
  · rintro e x ⟨h_clock, h_mem, -⟩ h_kind
    refine ⟨h_open, ?_⟩
    have h_agent := h.unwatched
    have h_pending := (agentSystem_oneTask h_agent.guarded_true).pending_eq h_mem
    have h_sends : w.1.SendsControl := ⟨h_kind, x, h_pending⟩
    cases h_phase with
    | sending _ _ h_held _ _ _ h_end =>
        obtain ⟨msg, h_msg⟩ := sendControlSync_ok (h_within.carries h_sends)
          (syncOffset_le_of_sends h_agent h_clock h_pending h_end)
        obtain ⟨h_type, h_work, -, -⟩ := sendControlSync_eq_ok h_msg
        exact ⟨msg, h_msg, h_type.trans h_held.1, h_work.trans h_held.2⟩
    | sendingLast _ _ _ h_enacted => exact absurd h_enacted h_not
    | repeats _ h_none => exact absurd h_sends h_none
    | enacted _ h_none => exact absurd h_sends h_none
    | closed _ h_none => exact absurd h_sends h_none

end Runs

/-- In every run: each episode is as it has to be, up to every state of the run,
    exactly if no sync slot is given to a message that has been repeated often
    enough or does not carry sync. -/
theorem control_episodes_intact_iff {c : Config} {w : (Agent × Episode) × List EpisodeMove}
    (h : (episodeSystem c).recorded.Reachable w) :
    (∀ t ∈ w.2, EpisodeIntact c t.after) ↔
      ∀ t ∈ w.2, t.before.1.StaysWithinRepeats t.label := by
  refine ⟨fun h_intact t h_t h_given => ?_, fun h_within t h_t => ?_⟩
  · obtain ⟨h_reach, ⟨-, h_possible⟩, h_step⟩ := h.recorded_moves t h_t
    obtain ⟨h_next, h_note⟩ := System.watched_step_eq_ok.1 h_step
    have h_one := agentSystem_oneTask h_reach.unwatched.guarded_true
    have h_controls := (Agent.stepAgent_step h_one h_possible h_next).controls
    obtain ⟨h_sends, h_type, h_count⟩ := h_controls.of_given t.before.2 h_given
    obtain ⟨e, x, h_enabled⟩ := h_sends.enabled (c := c)
    obtain ⟨h_open, msg, h_msg, -⟩ := (h_intact t h_t).built e x h_enabled h_sends.1
    obtain ⟨h_msg_type, -, -, h_carries⟩ := sendControlSync_eq_ok h_msg
    refine ⟨h_count.resolve_right fun h_enacted => ?_, ?_⟩
    · rw [h_note] at h_open
      exact Bool.false_ne_true (h_open.symm.trans h_enacted)
    · rw [← h_type]
      exact h_msg_type ▸ h_carries
  · have h_guarded := (h.recorded_guarded (fun w l => w.1.StaysWithinRepeats l) h_within).2 t h_t
    exact (episodeSystem_within h_guarded).intact h_guarded.of_guarded

-- ============================================================================
-- Four repetitions, and the fifth
-- ============================================================================

/-- With power for syncing only. -/
def Env.weak (now : Nat) : Env := { Env.quiet now with isPowerAboveMedium := false }

/-- The timer runs a task when it expires, with power for syncing only. -/
def weakly (task : Task) (expiry : Nat) : Env × AgentEvent := (Env.weak expiry, .timer task expiry)

/-- A slave of five asks for medium granularity. -/
def asksForMedium : SyncMessage :=
  { masterSyncFrom 5 (.ofTicks 0) with type := .controlNetGranularity, work := 1 }

/-- Unit five is asked for it in its first sync slot. -/
def isAsked : List (Env × AgentEvent) :=
  [weakly .startSyncPeriodMaintain 0,
    weakly .theRadioPreludeTaskWSync 79950,
    weakly .startSyncSlotAfterPrelude 80000,
    arrives 80020 asksForMedium,
    weakly .endSyncSlotListen 80050]

/-- The sync slot at `start` is given to control. -/
def slotForControl (start : Nat) : List (Env × AgentEvent) :=
  [weakly .theRadioPreludeTaskWSync (start - 50),
    ({ Env.weak start with repeaterCoinToss := true }, .timer .startSyncSlotAfterPrelude start)]

/-- The message of the sync slot at `start` is sent. -/
def sendsInSlot (start : Nat) : List (Env × AgentEvent) :=
  [weakly .sendSync (start + 15), weakly .endSyncSlotSend (start + 50)]

/-- Unit five repeats what it was asked for `n` times. -/
def repeatsFor (n : Nat) : List (Env × AgentEvent) :=
  isAsked ++ (List.range n).flatMap fun i =>
    slotForControl (80000 * (i + 2)) ++ sendsInSlot (80000 * (i + 2))

def unitFiveBooted : (Agent × Episode) × List EpisodeMove :=
  ((Agent.boot unitFive 0 0, Episode.none), [])

theorem unitFiveBooted_init : (episodeSystem unitFive).recorded.init unitFiveBooted :=
  ⟨⟨⟨0, 0, Nat.le_refl 0, rfl⟩, rfl⟩, rfl⟩

instance (c : Config) (w : (Agent × Episode) × List EpisodeMove) (l : Env × AgentEvent) :
    Decidable ((episodeSystem c).recorded.enabled w l) :=
  inferInstanceAs (Decidable ((agentSystem c).enabled w.1.1 l))

/-- Four repetitions are as they have to be. -/
theorem control_episodes_intact_iff_repeatsFour :
    ∃ w, (episodeSystem unitFive).recorded.Reachable w ∧ w.1.2.sent.length = 4 ∧
      ∀ t ∈ w.2, EpisodeIntact unitFive t.after := by
  obtain ⟨w, h, h_sent, h_within⟩ :=
    System.Reachable.exists_of_play
      (P := fun w => w.1.2.sent.length = 4 ∧ ∀ t ∈ w.2, t.before.1.StaysWithinRepeats t.label)
      (repeatsFor 4) unitFiveBooted_init (by decide +kernel)
  exact ⟨w, h, h_sent, (control_episodes_intact_iff h).2 h_within⟩

/-- The granularity is changed with the fifth message still to be sent. -/
theorem control_episode_enacted_early :
    ∃ w, (episodeSystem unitFive).recorded.Reachable w ∧
      w.1.1.protocol.granularity = .medium ∧ w.1.1.pending = [(.sendSync, 480015)] ∧
      ¬ ∀ t ∈ w.2, EpisodeIntact unitFive t.after := by
  obtain ⟨w, h, h_medium, h_pending, t, h_t, h_enacted, h_kind, h_waits⟩ :=
    System.Reachable.exists_of_play
      (P := fun w => w.1.1.protocol.granularity = .medium ∧
        w.1.1.pending = [(.sendSync, 480015)] ∧
        ∃ t ∈ w.2, t.after.2.isEnacted = true ∧ t.after.1.kind = .sendControlSync ∧
          t.after.1.pending = [(.sendSync, 480015)])
      (repeatsFor 4 ++ slotForControl 480000) unitFiveBooted_init (by decide +kernel)
  refine ⟨w, h, h_medium, h_pending, fun h_intact => ?_⟩
  exact not_intact_of_enacted h_enacted ⟨h_kind, _, h_waits⟩ (h_intact t h_t)

end SleepSync
