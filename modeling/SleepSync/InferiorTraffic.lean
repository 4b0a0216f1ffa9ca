/-
  SleepSync.InferiorTraffic

  A session of deep fishing: what a unit hears in a fish slot while it looks for
  the superior clique it was told of.

  The catch in deep fishing ignores a sync message of a clique that is not better
  and asks to keep listening.  The handler of a MasterSync passes that on, the
  handler of a WorkSync returns its own result instead and ends the listening.
  So inferior messages leave the unit listening exactly if no WorkSync is among
  them, and the two types of sync message have the same effect exactly if the
  message is not of that kind.
-/

import SleepSync.Receiving
import SleepSync.TaskRefinement

namespace SleepSync

open Lib Protocol

-- ============================================================================
-- What is received
-- ============================================================================

/-- A packet that is a message, and when it arrives and is handled. -/
structure Received where
  env : Env
  buffer : RadioBuffer
  msg : SyncMessage
  reads : Serializer.unserialize buffer = .ok (some msg)

namespace Protocol

variable (p : Protocol)

/-- Not a merger's message, and of a clique that is not better than the own. -/
def IsInferior (r : Received) : Prop :=
  r.msg.type.isMerge = false ∧ p.isOtherCliqueBetter r.msg.masterID = false

/-- The sync message of a better clique. -/
def IsSuperior (r : Received) : Prop :=
  (r.msg.type = .masterSync ∨ r.msg.type = .workSync) ∧
    p.isOtherCliqueBetter r.msg.masterID = true

end Protocol

namespace Agent

variable (c : Config) (a : Agent)

def hear (r : Received) : Except TaskFault Agent :=
  stepAgent c a r.env (.packet (some r.buffer))

/-- One message after the other; what comes when the radio is off is lost. -/
def hearAll (a : Agent) : List Received → Except TaskFault Agent
  | [] => .ok a
  | r :: rs => do
      let a' ← a.hear c r
      a'.hearAll rs

/-- After the messages `rs` the unit still listens, and by `r` it joins the clique
    that it looked for. -/
def Catches (rs : List Received) (r : Received) : Prop :=
  ∃ a' a'', a.hearAll c rs = .ok a' ∧ a'.radio = some .fishSlot ∧ a'.hear c r = .ok a'' ∧
    a''.protocol.masterID = r.msg.masterID ∧ a''.protocol.fishing.mode = .trolling

/-- What the unit is in, as far as its clique and its fishing go, and whether it
    listens. -/
def effect : CliqueState × FishingMode × Option MessageHandler :=
  (a.protocol.clique, a.protocol.fishing.mode, a.radio)

end Agent

-- ============================================================================
-- One message
-- ============================================================================

namespace Agent

section OneMessage

variable {c : Config} {e : Env} {a a' : Agent} {r : Received} {rs : List Received}

/-- The receiver is started again by the result of the handler. -/
def continuation (r : HandlingResult) : Option MessageHandler :=
  if r = .keepListening then some .fishSlot else none

theorem hear_eq_ok {p : Protocol} {res : HandlingResult} (h_radio : a.radio = some .fishSlot)
    (h_handle : FishSlot.handle c r.env a.protocol r.msg = .ok (res, p)) :
    ∃ a', a.hear c r = .ok a' ∧ a'.protocol = p ∧ a'.radio = continuation res := by
  have h_hears : a.hear c r = (a.received r.env).handleValidMessageAndSetContinuation c r.env
      .fishSlot r.msg := by
    unfold hear stepAgent
    dsimp only
    rw [h_radio]
    dsimp only [dispatch]
    rw [r.reads]
    rfl
  have h_handles : (a.received r.env).handle c r.env .fishSlot r.msg = .ok (res, p) := h_handle
  rw [h_hears, handleValidMessageAndSetContinuation, h_handles]
  by_cases h_keep : res = .keepListening
  · refine ⟨_, if_pos h_keep, rfl, ?_⟩
    rw [h_keep]
    rfl
  · refine ⟨_, if_neg h_keep, rfl, ?_⟩
    exact (if_neg h_keep).symm

theorem hear_eq_error {flt : Fault} (h_radio : a.radio = some .fishSlot)
    (h_handle : FishSlot.handle c r.env a.protocol r.msg = .error flt) :
    a.hear c r = .error (.protocol flt) := by
  unfold hear stepAgent
  dsimp only
  rw [h_radio]
  dsimp only [dispatch]
  rw [r.reads]
  show (a.received r.env).handleValidMessageAndSetContinuation c r.env .fishSlot r.msg = _
  have h_handles : (a.received r.env).handle c r.env .fishSlot r.msg = .error flt := h_handle
  rw [handleValidMessageAndSetContinuation, h_handles]
  rfl

theorem hear_off (h_radio : a.radio = none) :
    a.hear c r = .ok { a with clock := r.env.now } := by
  unfold hear stepAgent
  dsimp only
  rw [h_radio]

/-- The catch in deep fishing ignores a clique that is not better. -/
theorem doFishedSyncMsg_ignores {p : Protocol} {msg : SyncMessage}
    (h_mode : p.fishing.mode = .deepFishing) (h_carries : msg.type.doesCarrySync = true)
    (h_worse : p.isOtherCliqueBetter msg.masterID = false) :
    p.doFishedSyncMsg c e msg = .ok (.keepListening, p) := by
  unfold doFishedSyncMsg
  rw [h_mode]
  refine require_bind_eq_ok.2 ⟨h_carries, ?_⟩
  rw [h_worse]
  rfl

/-- Deep fishing ignores what is inferior, but for the result of a WorkSync. -/
theorem handle_inferior {p : Protocol} (h_mode : p.fishing.mode = .deepFishing)
    (h : p.IsInferior r) :
    FishSlot.handle c e p r.msg = .ok
      (if r.msg.type = .workSync then .stopListeningHeardWorkSync else .keepListening, p) := by
  obtain ⟨h_merge, h_worse⟩ := h
  unfold FishSlot.handle
  cases h_type : r.msg.type with
  | masterSync =>
      exact doFishedSyncMsg_ignores h_mode (doesCarrySync_of_type (Or.inl h_type)) h_worse
  | workSync =>
      have h_fished := doFishedSyncMsg_ignores (c := c) (e := e) h_mode
        (doesCarrySync_of_type (Or.inr h_type)) h_worse
      exact bind_return_eq_ok.2 ⟨_, h_fished, rfl⟩
  | mergeOther => rw [h_type] at h_merge; cases h_merge
  | mergeMyMasterDepart => rw [h_type] at h_merge; cases h_merge
  | mergeMySlaveDepart => rw [h_type] at h_merge; cases h_merge
  | _ => rfl

theorem hear_inferior (h_mode : a.protocol.fishing.mode = .deepFishing)
    (h_radio : a.radio = some .fishSlot) (h : a.protocol.IsInferior r) :
    ∃ a', a.hear c r = .ok a' ∧ a'.protocol = a.protocol ∧
      a'.radio = if r.msg.type = .workSync then none else some .fishSlot := by
  obtain ⟨a', h_hear, h_protocol, h_on⟩ := hear_eq_ok h_radio (handle_inferior h_mode h)
  refine ⟨a', h_hear, h_protocol, ?_⟩
  rw [h_on]
  split <;> rfl

/-- Inferior messages change nothing, and leave the unit listening exactly if no
    WorkSync is among them. -/
theorem hearAll_inferior (h_mode : a.protocol.fishing.mode = .deepFishing)
    (h_slot : a.radio = some .fishSlot ∨ a.radio = none)
    (h : ∀ r ∈ rs, a.protocol.IsInferior r) :
    ∃ a', a.hearAll c rs = .ok a' ∧ a'.protocol = a.protocol ∧
      (a'.radio = some .fishSlot ↔
        a.radio = some .fishSlot ∧ ∀ r ∈ rs, r.msg.type ≠ .workSync) := by
  induction rs generalizing a with
  | nil => exact ⟨a, rfl, rfl, by simp⟩
  | cons r rs ih =>
      obtain ⟨h_first, h_rest⟩ := List.forall_mem_cons.1 h
      have h_one : ∃ a₁, a.hear c r = .ok a₁ ∧ a₁.protocol = a.protocol ∧
          (a₁.radio = some .fishSlot ∨ a₁.radio = none) ∧
          (a₁.radio = some .fishSlot ↔
            a.radio = some .fishSlot ∧ r.msg.type ≠ .workSync) := by
        rcases h_slot with h_on | h_off
        · obtain ⟨a₁, h_hear, h_protocol, h_radio⟩ := hear_inferior h_mode h_on h_first
          refine ⟨a₁, h_hear, h_protocol, ?_, ?_⟩
          · rw [h_radio]
            split <;> simp
          · rw [h_radio]
            simp [h_on]
        · refine ⟨_, hear_off h_off, rfl, Or.inr h_off, ?_⟩
          simp [h_off]
      obtain ⟨a₁, h_hear, h_protocol, h_slot₁, h_listens⟩ := h_one
      obtain ⟨a', h_all, h_same, h_iff⟩ :=
        ih (a := a₁) (by rw [h_protocol]; exact h_mode) h_slot₁
          (by rw [h_protocol]; exact h_rest)
      refine ⟨a', bind_eq_ok.2 ⟨a₁, h_hear, h_all⟩, h_same.trans h_protocol, ?_⟩
      rw [h_iff, h_listens, List.forall_mem_cons, and_assoc]

/-- It joins one that is better, if the schedule accepts its sync point. -/
theorem doFishedSyncMsg_catches {p : Protocol} {msg : SyncMessage} {s : Schedule}
    (h_mode : p.fishing.mode = .deepFishing) (h_carries : msg.type.doesCarrySync = true)
    (h_better : p.isOtherCliqueBetter msg.masterID = true)
    (h_adjust : p.schedule.adjustBySyncMsg msg e.timeOfArrival = .ok s) :
    p.doFishedSyncMsg c e msg = .ok (.stopListeningHeardMasterSync,
      { p.joining msg s with fishing := p.fishing.switchToTrolling }) := by
  have h_update := updateBySyncMessage_eq_ok.2 ⟨h_carries, s, h_adjust, rfl⟩
  unfold doFishedSyncMsg
  rw [h_mode]
  refine require_bind_eq_ok.2 ⟨h_carries, ?_⟩
  rw [if_pos h_better]
  exact bind_return_eq_ok.2 ⟨_, h_update, rfl⟩

/-- The catch: either type of message joins the better clique, if the schedule
    accepts its sync point. -/
theorem handle_superior {p : Protocol} {s : Schedule} (h_mode : p.fishing.mode = .deepFishing)
    (h : p.IsSuperior r) (h_adjust : p.schedule.adjustBySyncMsg r.msg e.timeOfArrival = .ok s) :
    ∃ res, FishSlot.handle c e p r.msg =
      .ok (res, { p.joining r.msg s with fishing := p.fishing.switchToTrolling }) := by
  obtain ⟨h_type, h_better⟩ := h
  have h_catch := doFishedSyncMsg_catches (c := c) h_mode (doesCarrySync_of_type h_type) h_better
    h_adjust
  unfold FishSlot.handle
  rcases h_type with h_type | h_type <;> rw [h_type]
  · exact ⟨_, h_catch⟩
  · exact ⟨_, bind_return_eq_ok.2 ⟨_, h_catch, rfl⟩⟩

/-- What is heard of a better clique is joined exactly if the schedule accepts its
    sync point. -/
theorem hear_superior (h_mode : a.protocol.fishing.mode = .deepFishing)
    (h_radio : a.radio = some .fishSlot) (h : a.protocol.IsSuperior r)
    (h_bounds : a.protocol.schedule.InBounds)
    (h_toa : a.protocol.schedule.startTimeOfSyncPeriod ≤ r.env.timeOfArrival) :
    (∃ a', a.hear c r = .ok a' ∧ a'.protocol.masterID = r.msg.masterID ∧
        a'.protocol.fishing.mode = .trolling) ↔
      a.protocol.schedule.AcceptsEventTime
        (Schedule.adjustedEventTimeFromMsg r.msg r.env.timeOfArrival) := by
  rw [← Schedule.adjustBySyncMsg_ok_iff h_bounds h_toa]
  refine ⟨?_, ?_⟩
  · rintro ⟨a', h_hear, -, -⟩
    cases h_handle : FishSlot.handle c r.env a.protocol r.msg with
    | error flt =>
        rw [hear_eq_error h_radio h_handle] at h_hear
        cases h_hear
    | ok x =>
        have h_adopts : a.protocol.adoptsInFishSlot r.msg = true := adoptsInFishSlot_iff.2 h
        have h_step : stepProtocol c a.protocol r.env (.hearInFishSlot r.msg) = .ok x.2 :=
          bind_return_eq_ok.2 ⟨x, h_handle, rfl⟩
        exact ⟨_, ProtocolEvent.Adopts.adjusts (Or.inr ⟨rfl, h_adopts⟩) h_step⟩
  · rintro ⟨s, h_adjust⟩
    obtain ⟨res, h_handle⟩ := handle_superior (c := c) h_mode h h_adjust
    obtain ⟨a', h_hear, h_protocol, -⟩ := hear_eq_ok h_radio h_handle
    refine ⟨a', h_hear, ?_, ?_⟩
    · rw [h_protocol]
      rfl
    · rw [h_protocol]
      rfl

-- ============================================================================
-- The two types of sync message
-- ============================================================================

variable {msg : SyncMessage}

theorem doFishedSyncMsg_type {p : Protocol} (h_type : msg.type = .masterSync) :
    p.doFishedSyncMsg c e { msg with type := .workSync } = p.doFishedSyncMsg c e msg := by
  obtain ⟨type, offset, masterID, work⟩ := msg
  cases h_type
  rfl

/-- The catch asks to keep listening only for what it ignores. -/
theorem doFishedSyncMsg_stops {p p' : Protocol} {res : HandlingResult}
    (h : p.doFishedSyncMsg c e msg = .ok (res, p')) :
    res ≠ .keepListening ↔
      (p.fishing.mode = .deepFishing → p.isOtherCliqueBetter msg.masterID = true) := by
  unfold doFishedSyncMsg at h
  split at h
  case h_1 h_mode =>
    obtain ⟨p₁, -, h_eq⟩ := bind_return_eq_ok.1 h
    rw [(Prod.mk.inj h_eq).1, h_mode]
    simp
  case h_2 h_mode =>
    obtain ⟨-, h⟩ := require_bind_eq_ok.1 h
    split at h
    · rename_i h_better
      obtain ⟨p₁, -, h_eq⟩ := bind_return_eq_ok.1 h
      rw [(Prod.mk.inj h_eq).1]
      simp [h_better]
    · rename_i h_not
      cases h
      simp [h_mode, h_not]

end OneMessage

/-- The type of a sync message makes no difference exactly if the message is not one
    that deep fishing ignores. -/
theorem hear_type {c : Config} {a : Agent} {m w : Received} (h_radio : a.radio = some .fishSlot)
    (h_env : w.env = m.env) (h_type : m.msg.type = .masterSync)
    (h_work : w.msg = { m.msg with type := .workSync }) :
    (a.hear c w).map effect = (a.hear c m).map effect ↔
      (a.protocol.fishing.mode = .deepFishing →
        a.protocol.isOtherCliqueBetter m.msg.masterID = true) := by
  have h_master : FishSlot.handle c m.env a.protocol m.msg =
      a.protocol.doFishedSyncMsg c m.env m.msg := by
    unfold FishSlot.handle
    rw [h_type]
    rfl
  have h_same : FishSlot.handle c w.env a.protocol w.msg =
      (a.protocol.doFishedSyncMsg c m.env m.msg >>= fun x =>
        pure (.stopListeningHeardWorkSync, x.2)) := by
    rw [h_env, h_work, ← doFishedSyncMsg_type h_type]
    rfl
  cases h_fished : a.protocol.doFishedSyncMsg c m.env m.msg with
  | error flt =>
      rw [h_fished] at h_master h_same
      rw [hear_eq_error h_radio h_master, hear_eq_error h_radio h_same]
      refine iff_of_true rfl fun h_mode => ?_
      by_contra h_not
      rw [doFishedSyncMsg_ignores h_mode (doesCarrySync_of_type (Or.inl h_type))
        (eq_false_of_ne_true h_not)] at h_fished
      cases h_fished
  | ok x =>
      obtain ⟨res, p⟩ := x
      rw [h_fished] at h_master h_same
      obtain ⟨a₁, h_hear₁, h_p₁, h_on₁⟩ := hear_eq_ok h_radio h_master
      obtain ⟨a₂, h_hear₂, h_p₂, h_on₂⟩ := hear_eq_ok h_radio h_same
      rw [← doFishedSyncMsg_stops h_fished, h_hear₁, h_hear₂]
      simp only [Except.map, effect, h_p₁, h_p₂, h_on₁, h_on₂, Except.ok.injEq, Prod.mk.injEq,
        true_and]
      unfold continuation
      rw [if_neg (by decide)]
      split <;> simp_all

end Agent

-- ============================================================================
-- Sessions
-- ============================================================================

/-- While a reachable unit listens in a fish slot: inferior traffic leaves it
    listening for the superior clique, and able to join it, exactly if there is no
    WorkSync in it and the schedule accepts the sync point of the superior one; and
    the two types of sync message have the same effect exactly if the message is of
    a better clique or the unit trolls. -/
theorem deep_fisher_catches_iff {c : Config} {a : Agent} (h : (agentSystem c).Reachable a)
    (h_radio : a.radio = some .fishSlot) :
    (∀ rs r, a.protocol.fishing.mode = .deepFishing →
      (∀ x ∈ rs, a.protocol.IsInferior x) → a.protocol.IsSuperior r →
      a.protocol.schedule.startTimeOfSyncPeriod ≤ r.env.timeOfArrival →
      (a.Catches c rs r ↔ (∀ x ∈ rs, x.msg.type ≠ .workSync) ∧
        a.protocol.schedule.AcceptsEventTime
          (Schedule.adjustedEventTimeFromMsg r.msg r.env.timeOfArrival))) ∧
    ∀ m w : Received, w.env = m.env → m.msg.type = .masterSync →
      w.msg = { m.msg with type := .workSync } →
      ((a.hear c w).map Agent.effect = (a.hear c m).map Agent.effect ↔
        (a.protocol.fishing.mode = .deepFishing →
          a.protocol.isOtherCliqueBetter m.msg.masterID = true)) := by
  have h_bounds := protocolSystem_inBounds (agentSystem_listening h h_radio)
  refine ⟨?_, fun m w h_env h_type h_work => Agent.hear_type h_radio h_env h_type h_work⟩
  intro rs r h_mode h_inferior h_superior h_toa
  obtain ⟨a', h_all, h_same, h_listens⟩ :=
    Agent.hearAll_inferior (c := c) h_mode (Or.inl h_radio) h_inferior
  have h_joins := fun h_on => Agent.hear_superior (c := c) (a := a') (r := r)
    (by rw [h_same]; exact h_mode) h_on (by rw [h_same]; exact h_superior)
    (by rw [h_same]; exact h_bounds) (by rw [h_same]; exact h_toa)
  rw [h_same] at h_joins
  refine ⟨?_, ?_⟩
  · rintro ⟨a₁, a₂, h_all₁, h_on, h_hear, h_master, h_trolls⟩
    rw [h_all] at h_all₁
    cases h_all₁
    exact ⟨(h_listens.1 h_on).2, (h_joins h_on).1 ⟨a₂, h_hear, h_master, h_trolls⟩⟩
  · rintro ⟨h_no_work, h_accepts⟩
    have h_on := h_listens.2 ⟨h_radio, h_no_work⟩
    obtain ⟨a₂, h_hear, h_master, h_trolls⟩ := (h_joins h_on).2 h_accepts
    exact ⟨a', a₂, h_all, h_on, h_hear, h_master, h_trolls⟩

-- ============================================================================
-- A member of a worse clique that works
-- ============================================================================

/-- Unit five is told that the superior clique has its sync point 40000 ticks after
    its own, and fishes there in the same period. -/
def fishesDeep : List (Env × AgentEvent) :=
  [onTime .startSyncPeriodMaintain 0,
    onTime .theRadioPreludeTaskWSync 79950,
    onTime .startSyncSlotAfterPrelude 80000,
    arrives 80020 { masterSyncFrom 3 (.ofTicks 39980) with type := .mergeOther },
    onTime .endSyncSlotListen 80050,
    onTime .theRadioPreludeTaskWFish 119950,
    onTime .fishSlotStart 120000]

/-- `msg` as it is received at `toa`. -/
def receivedAt (toa : Nat) (msg : SyncMessage)
    (h : Serializer.unserialize (bufferOf msg) = .ok (some msg)) : Received where
  env := arriving toa
  buffer := bufferOf msg
  msg := msg
  reads := h

/-- From the sync slot of the superior clique. -/
def superiorMasterSync : Received :=
  receivedAt 120025 (masterSyncFrom 3 (.ofTicks 79975)) (by decide +kernel)

def inferiorMasterSync : Received :=
  receivedAt 120010 (masterSyncFrom 9 (.ofTicks 79975)) (by decide +kernel)

def inferiorWorkSync : Received :=
  receivedAt 120010 { masterSyncFrom 9 (.ofTicks 79975) with type := .workSync }
    (by decide +kernel)

/-- A MasterSync of nine is ignored, and three is caught. -/
theorem deep_fisher_catches_iff_fishesDeep :
    ∃ a, (agentSystem unitFive).Reachable a ∧
      a.Catches unitFive [inferiorMasterSync] superiorMasterSync := by
  obtain ⟨a, h, h_radio, h_mode, h_worse, h_better, h_toa, h_accepts⟩ :=
    System.Reachable.exists_of_play (M := agentSystem unitFive)
      (P := fun a => a.radio = some .fishSlot ∧ a.protocol.fishing.mode = .deepFishing ∧
        a.protocol.isOtherCliqueBetter 9 = false ∧ a.protocol.isOtherCliqueBetter 3 = true ∧
        a.protocol.schedule.startTimeOfSyncPeriod ≤ 120025 ∧
        a.protocol.schedule.AcceptsEventTime 200000)
      fishesDeep ⟨0, 0, Nat.le_refl 0, rfl⟩ (by decide +kernel)
  have h_inferior : ∀ x ∈ [inferiorMasterSync], a.protocol.IsInferior x := by
    intro x h_x
    rw [List.mem_singleton.1 h_x]
    exact ⟨rfl, h_worse⟩
  refine ⟨a, h, ((deep_fisher_catches_iff h h_radio).1 _ _ h_mode h_inferior
    ⟨Or.inl rfl, h_better⟩ h_toa).2 ⟨?_, h_accepts⟩⟩
  intro x h_x
  rw [List.mem_singleton.1 h_x]
  decide

/-- A WorkSync of nine turns the receiver off, and three is not caught. -/
theorem inferiorWorkSync_hides_superior :
    ∃ a, (agentSystem unitFive).Reachable a ∧ a.radio = some .fishSlot ∧
      a.protocol.fishing.mode = .deepFishing ∧ a.protocol.masterID = 5 ∧
      ¬ a.Catches unitFive [inferiorWorkSync] superiorMasterSync ∧
      (a.hear unitFive inferiorMasterSync).map Agent.radio = .ok (some .fishSlot) ∧
      (a.hear unitFive inferiorWorkSync).map Agent.radio = .ok none := by
  obtain ⟨a, h, h_radio, h_mode, h_master, h_all, h_listens, h_stops⟩ :=
    System.Reachable.exists_of_play (M := agentSystem unitFive)
      (P := fun a => a.radio = some .fishSlot ∧ a.protocol.fishing.mode = .deepFishing ∧
        a.protocol.masterID = 5 ∧
        (a.hearAll unitFive [inferiorWorkSync]).map Agent.radio = .ok none ∧
        (a.hear unitFive inferiorMasterSync).map Agent.radio = .ok (some .fishSlot) ∧
        (a.hear unitFive inferiorWorkSync).map Agent.radio = .ok none)
      fishesDeep ⟨0, 0, Nat.le_refl 0, rfl⟩ (by decide +kernel)
  refine ⟨a, h, h_radio, h_mode, h_master, ?_, h_listens, h_stops⟩
  rintro ⟨a', a'', h_heard, h_on, -⟩
  rw [h_heard] at h_all
  have h_off : a'.radio = none := Except.ok.inj h_all
  rw [h_on] at h_off
  cases h_off

end SleepSync
