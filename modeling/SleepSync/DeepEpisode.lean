/-
  SleepSync.DeepEpisode

  An episode of deep fishing, from the merge message that starts it to a catch or
  to the call of its callback.

  A fishing is counted where its start is asked for, at the end of the sync slot,
  and the count is looked at where the fish slot ends.  In between the fishing is
  planned, or it goes on (`FishPhase`).  The comparison at the end lets the
  episode go on at the limit, so that an episode without a catch has one fishing
  more than it should, and its callback is called after that one.

  The episode's offset, count and callback are its own: no merge message that
  is heard while it lasts changes them.
-/

import SleepSync.InferiorTraffic

namespace SleepSync

open Lib Protocol FishingParameters

-- ============================================================================
-- What events do to deep fishing
-- ============================================================================

/-- The mode and the policy of deep fishing are the same. -/
def Fishing.SameDeep (f f' : Fishing) : Prop :=
  f'.mode = f.mode ∧ f'.deep = f.deep

namespace Fishing

variable {f f' f'' : Fishing}

theorem SameDeep.refl (f : Fishing) : f.SameDeep f := ⟨rfl, rfl⟩

theorem SameDeep.trans (h : f.SameDeep f') (h' : f'.SameDeep f'') : f.SameDeep f'' :=
  ⟨h'.1.trans h.1, h'.2.trans h.2⟩

theorem restartTrollingMode_sameDeep (h : f.restartTrollingMode = .ok f') : f.SameDeep f' := by
  obtain ⟨t, -, rfl⟩ := restartTrollingMode_eq_ok.1 h
  exact ⟨rfl, rfl⟩

theorem preFishing_sameDeep (h : f.preFishing = .ok f') : f.SameDeep f' := by
  obtain ⟨h_mode, -, h_deep, -⟩ := preFishing_eq_ok h
  exact ⟨h_mode, h_deep⟩

theorem manage_sameDeep {vcc : Bool} (h : f.manage vcc = .ok f') : f.SameDeep f' := by
  unfold manage at h
  split at h
  · split at h
    · cases h
      exact SameDeep.refl f
    · obtain ⟨f₁, h_incr, rfl⟩ := bind_return_eq_ok.1 h
      unfold incrementFishSessionDuration at h_incr
      dsimp only at h_incr
      split at h_incr
      · cases h_incr
        exact SameDeep.refl f
      · have h_raised := restartTrollingMode_sameDeep h_incr
        exact ⟨h_raised.1, h_raised.2⟩
  · cases h
    exact ⟨rfl, rfl⟩

end Fishing

section Events

variable {c : Config} {e : Env} {p p' : Protocol} {ev : ProtocolEvent} {msg : SyncMessage}

/-- The events that start, count or end fishings. -/
def ProtocolEvent.isAboutDeep : ProtocolEvent → Bool
  | .hearInSyncSlot _ | .hearInFishSlot _ | .setStartAndEndTimes | .checkFishingDone => true
  | _ => false

theorem stepProtocol_sameDeep (h : stepProtocol c p e ev = .ok p')
    (h_ev : ev.isAboutDeep = false) : p.fishing.SameDeep p'.fishing := by
  cases stepProtocol_done h with
  | heard => cases h_ev
  | fished => cases h_ev
  | startsFishing => cases h_ev
  | checked => cases h_ev
  | scattered _ h_f => exact Fishing.restartTrollingMode_sameDeep h_f
  | listened h_ended =>
      cases h_ended with
      | grabbed _ _ _ _ h_f => exact Fishing.restartTrollingMode_sameDeep h_f
      | reverted _ _ _ _ _ h_f => exact Fishing.restartTrollingMode_sameDeep h_f
      | _ => exact ⟨rfl, rfl⟩
  | preFished h_f => exact Fishing.preFishing_sameDeep h_f
  | booked h_book =>
      obtain ⟨f, h_f, h_eq⟩ := bookkeepingAtPreludeToSyncSlot_eq_ok h_book
      have h_fishing := congrArg Protocol.fishing h_eq
      dsimp only at h_fishing
      rw [h_fishing]
      exact Fishing.manage_sameDeep h_f
  | _ => exact ⟨rfl, rfl⟩

/-- In the sync slot deep fishing begins with the message, or goes on as it is. -/
theorem hearInSyncSlot_deep (h : stepProtocol c p e (.hearInSyncSlot msg) = .ok p') :
    p.fishing.SameDeep p'.fishing ∨
      (p.fishing.mode = .trolling ∧ p'.fishing.mode = .deepFishing ∧
        ∃ callback, p'.fishing.deep =
          DeepFishingPolicy.restart (p.getFishingDeltaFromMergeMsg c e msg) callback) := by
  obtain ⟨⟨r, p₁⟩, h_handle, rfl⟩ := bind_return_eq_ok.1 h
  cases SyncSlot.handle_heard h_handle with
  | scattered _ _ _ h_f => exact Or.inl (Fishing.restartTrollingMode_sameDeep h_f)
  | enticed =>
      unfold Fishing.switchToDeepFishing
      cases h_mode : p.fishing.mode with
      | trolling => exact Or.inr ⟨rfl, rfl, _, rfl⟩
      | deepFishing => exact Or.inl ⟨rfl, rfl⟩
  | _ => exact Or.inl ⟨rfl, rfl⟩

/-- In the fish slot deep fishing ends with the message, or goes on as it is. -/
theorem hearInFishSlot_deep (h : stepProtocol c p e (.hearInFishSlot msg) = .ok p') :
    p.fishing.SameDeep p'.fishing ∨
      (p.fishing.mode = .deepFishing ∧ p'.fishing.mode = .trolling) := by
  obtain ⟨⟨r, p₁⟩, h_handle, rfl⟩ := bind_return_eq_ok.1 h
  cases FishSlot.handle_heard h_handle with
  | caughtDeep h_mode => exact Or.inr ⟨h_mode, rfl⟩
  | _ => exact Or.inl ⟨rfl, rfl⟩

/-- Asking for the start counts a fishing. -/
theorem setStartAndEndTimes_deep (p : Protocol) :
    p.setStartAndEndTimes.fishing.mode = p.fishing.mode ∧
      p.setStartAndEndTimes.fishing.deep =
        if p.fishing.mode = .deepFishing then
          { p.fishing.deep with countFishings := p.fishing.deep.countFishings + 1 }
        else p.fishing.deep := by
  unfold setStartAndEndTimes Fishing.setStartAndEndTimes Fishing.getStartTimeToFish
  cases h_mode : p.fishing.mode with
  | trolling => exact ⟨h_mode, (if_neg (by decide)).symm⟩
  | deepFishing => exact ⟨rfl, (if_pos rfl).symm⟩

end Events

-- ============================================================================
-- What tasks do to deep fishing
-- ============================================================================

/-- Where a fishing is between the request for its start and the end of its slot. -/
inductive FishPhase
  | none
  | planned
  | fishing
  deriving DecidableEq

def Task.fishPhase : Task → FishPhase
  | .theRadioPreludeTaskWFish | .fishSlotStart => .planned
  | .fishSlotEnd => .fishing
  | _ => .none

namespace Agent

/-- By the task that is pending. -/
def fishPhase (a : Agent) : FishPhase :=
  match a.pending with
  | [(t, _)] => t.fishPhase
  | _ => .none

theorem fishPhase_of_waiting {a : Agent} {t : Task} {x : Nat} (h : a.pending = [(t, x)]) :
    a.fishPhase = t.fishPhase := by
  unfold fishPhase
  rw [h]

theorem fishPhase_of_idle {a : Agent} (h : a.pending = []) : a.fishPhase = .none := by
  unfold fishPhase
  rw [h]

variable (c : Config) (a : Agent)

/-- What an event of the task machine does to deep fishing. -/
inductive DeepStep : AgentEvent → Agent → Prop
  | kept {ev : AgentEvent} {a' : Agent} (h_start : ∀ x, ev ≠ .timer .fishSlotStart x)
      (h_end : ∀ x, ev ≠ .timer .fishSlotEnd x) (h_phase : a'.fishPhase = a.fishPhase)
      (h_same : a.protocol.fishing.SameDeep a'.protocol.fishing) : DeepStep ev a'
  | began {packet : Option RadioBuffer} {a' : Agent} {d : Nat} {callback : DeepFishingCallback}
      (h_phase : a.fishPhase = .none) (h_phase' : a'.fishPhase = .none)
      (h_was : a.protocol.fishing.mode = .trolling)
      (h_is : a'.protocol.fishing.mode = .deepFishing)
      (h_deep : a'.protocol.fishing.deep = DeepFishingPolicy.restart d callback) :
      DeepStep (.packet packet) a'
  | planned {t : Task} {x : Nat} {a' : Agent} (h_t : t.fishPhase = .none)
      (h_phase : a.fishPhase = .none) (h_phase' : a'.fishPhase = .planned)
      (h_mode : a'.protocol.fishing.mode = a.protocol.fishing.mode)
      (h_deep : a'.protocol.fishing.deep =
        if a.protocol.fishing.mode = .deepFishing then
          { a.protocol.fishing.deep with
            countFishings := a.protocol.fishing.deep.countFishings + 1 }
        else a.protocol.fishing.deep) : DeepStep (.timer t x) a'
  | started {x : Nat} {a' : Agent} (h_phase : a.fishPhase = .planned)
      (h_phase' : a'.fishPhase = .fishing)
      (h_same : a.protocol.fishing.SameDeep a'.protocol.fishing) :
      DeepStep (.timer .fishSlotStart x) a'
  | caught {packet : Option RadioBuffer} {a' : Agent} (h_phase : a.fishPhase = .fishing)
      (h_phase' : a'.fishPhase = .fishing) (h_was : a.protocol.fishing.mode = .deepFishing)
      (h_is : a'.protocol.fishing.mode = .trolling) : DeepStep (.packet packet) a'
  | ended {x : Nat} {a' : Agent} (h_phase : a.fishPhase = .fishing)
      (h_phase' : a'.fishPhase = .none)
      (h_check : a.protocol.checkFishingDone c = .ok a'.protocol) :
      DeepStep (.timer .fishSlotEnd x) a'

section Steps

variable {c : Config} {e : Env} {a a' : Agent} {ev : AgentEvent}

theorem fishPhase_schedule (h : a.pending = []) (t : Task) (d : Nat) :
    (a.schedule e t d).fishPhase = t.fishPhase :=
  fishPhase_of_waiting (schedule_pending_of_idle e t d h)

theorem fishPhase_of_awaits {ts : List Task} (h : a.Awaits ts)
    (h_ts : ∀ t ∈ ts, t.fishPhase = .none) : a.fishPhase = .none := by
  rcases h with h_idle | ⟨t, h_t, x, h_pending⟩
  · exact fishPhase_of_idle h_idle
  · exact (fishPhase_of_waiting h_pending).trans (h_ts t h_t)

theorem SyncSlotNext.fishPhase {u : Bool} (h : SyncSlotNext c e a u a')
    (h_pending : a.pending = []) : a'.fishPhase = .none :=
  fishPhase_of_awaits (h.awaits h_pending) (by decide)

/-- After the sync slot a fishing is planned, or deep fishing is as it was. -/
theorem NonSyncScheduled.deepStep {b : Agent} {t : Task} {x : Nat}
    (h : NonSyncScheduled c e b a') (h_pending : b.pending = []) (h_t : t.fishPhase = .none)
    (h_phase : a.fishPhase = .none) (h_same : a.protocol.fishing.SameDeep b.protocol.fishing) :
    DeepStep c a (.timer t x) a' := by
  have h_kept : a'.fishPhase = .none → a'.protocol = b.protocol →
      DeepStep c a (.timer t x) a' := by
    intro h_phase' h_protocol
    refine DeepStep.kept ?_ ?_ (h_phase'.trans h_phase.symm) (by rw [h_protocol]; exact h_same)
    · rintro y h_ev
      cases h_ev
      cases h_t
    · rintro y h_ev
      cases h_ev
      cases h_t
  have h_planned : a'.fishPhase = .planned →
      a'.protocol = b.protocol.setStartAndEndTimes → DeepStep c a (.timer t x) a' := by
    intro h_phase' h_protocol
    obtain ⟨h_mode, h_deep⟩ := setStartAndEndTimes_deep b.protocol
    rw [h_same.1, h_same.2] at h_deep
    rw [← h_protocol] at h_mode h_deep
    exact DeepStep.planned h_t h_phase h_phase' (h_mode.trans h_same.1) h_deep
  cases h with
  | omits => exact h_kept (fishPhase_schedule (a := b.undo) h_pending _ _) rfl
  | merges =>
      refine h_kept ?_ ?_
      · apply fishPhase_schedule
        split <;> exact h_pending
      · show (ite _ _ _ : Agent).protocol = _
        split <;> rfl
  | fishesNear =>
      exact h_planned (fishPhase_schedule
        (a := { b with protocol := b.protocol.setStartAndEndTimes }) h_pending _ _) rfl
  | fishesFar =>
      exact h_planned (fishPhase_schedule
        (a := { b.undo with protocol := b.protocol.setStartAndEndTimes }) h_pending _ _) rfl
  | provisions => exact h_kept (fishPhase_schedule h_pending _ _) rfl
  | stalls => exact h_kept (fishPhase_of_idle h_pending) rfl

theorem bookkeeping_sameDeep {p p' : Protocol}
    (h : p.bookkeepingAtPreludeToSyncSlot c e = .ok p') : p.fishing.SameDeep p'.fishing := by
  have h_step : stepProtocol c p e .bookkeepingAtPreludeToSyncSlot = .ok p' := h
  exact stepProtocol_sameDeep h_step rfl

theorem TaskRan.deepStep {t : Task} {x : Nat} (h_pending : a.pending = [(t, x)])
    (h : TaskRan c e (a.dequeued e t x) t a') : DeepStep c a (.timer t x) a' := by
  have h_phase := fishPhase_of_waiting h_pending
  have h_idle := dequeued_pending e t x h_pending
  have h_awaits := h.awaits h_idle
  -- the tasks with no fishing before or after them
  have h_kept : t.fishPhase = .none → (∀ k ∈ t.next, k.fishPhase = .none) →
      a.protocol.fishing.SameDeep a'.protocol.fishing → DeepStep c a (.timer t x) a' := by
    intro h_t h_next h_same
    have h_phase' : a'.fishPhase = .none := fishPhase_of_awaits h_awaits h_next
    refine DeepStep.kept ?_ ?_ (h_phase'.trans (h_phase.trans h_t).symm) h_same
    · rintro y h_ev
      cases h_ev
      cases h_t
    · rintro y h_ev
      cases h_ev
      cases h_t
  have h_sync : startsSyncSlot t → a.protocol.fishing.SameDeep a'.protocol.fishing →
      DeepStep c a (.timer t x) a' := by
    rintro (rfl | rfl) h_same
    · exact h_kept rfl (by decide) h_same
    · exact h_kept rfl (by decide) h_same
  cases h with
  | @maintained p _ _ h_book =>
      have h_same : a.protocol.fishing.SameDeep p.fishing := bookkeeping_sameDeep h_book
      exact h_kept rfl (by decide) h_same
  | @resumed p _ _ h_book =>
      have h_same : a.protocol.fishing.SameDeep p.fishing := bookkeeping_sameDeep h_book
      exact h_kept rfl (by decide) h_same
  | preludesSync h_book => exact h_kept rfl (by decide) (bookkeeping_sameDeep h_book)
  | preludesFish =>
      refine DeepStep.kept nofun nofun ?_ (Fishing.SameDeep.refl _)
      rw [h_phase]
      exact fishPhase_schedule h_idle .fishSlotStart _
  | pauses h_t => exact h_sync h_t (Fishing.SameDeep.refl _)
  | @sends _ _ p p' _ h_t _ _ _ _ _ h_step =>
      have h_same : a.protocol.fishing.SameDeep p'.fishing :=
        stepProtocol_sameDeep (p := ((dequeued e a t x).rolled e t).protocol) h_step rfl
      exact h_sync h_t h_same
  | @listens _ p h_t _ _ _ _ h_step =>
      have h_same : a.protocol.fishing.SameDeep p.fishing :=
        stepProtocol_sameDeep (p := ((dequeued e a t x).rolled e t).protocol) h_step rfl
      exact h_sync h_t h_same
  | sent => exact h_kept rfl (by decide) (Fishing.SameDeep.refl _)
  | @listened p p₁ _ _ h_end h_fish h_next =>
      have h_listen : stepProtocol c a.protocol e .endListen = .ok p := h_end
      have h_choose : stepProtocol c p e .preFishing = .ok p₁ := h_fish
      have h_same := stepProtocol_sameDeep h_listen rfl
      exact h_next.deepStep h_idle rfl h_phase (h_same.trans (stepProtocol_sameDeep h_choose rfl))
  | @sentOver p _ _ h_fish h_next =>
      have h_choose : stepProtocol c a.protocol e .preFishing = .ok p := h_fish
      exact h_next.deepStep h_idle rfl h_phase (stepProtocol_sameDeep h_choose rfl)
  | fishes =>
      refine DeepStep.started h_phase ?_ (Fishing.SameDeep.refl _)
      exact fishPhase_schedule h_idle .fishSlotEnd _
  | fished _ h_check h_next =>
      refine DeepStep.ended h_phase (h_next.fishPhase h_idle) ?_
      rw [h_next.protocol]
      exact h_check
  | @merged _ p _ _ h_sent h_next =>
      have h_step : stepProtocol c a.protocol e .mergeSyncSent = .ok p := h_sent
      refine h_kept rfl (by decide) ?_
      rw [h_next.protocol]
      exact stepProtocol_sameDeep h_step rfl
  | provisions => exact h_kept rfl (by decide) (Fishing.SameDeep.refl _)
  | failsToProvision _ _ h_next =>
      refine h_kept rfl (by decide) ?_
      rw [h_next.protocol]
      exact Fishing.SameDeep.refl _
  | provisioned h_next =>
      refine h_kept rfl (by decide) ?_
      rw [h_next.protocol]
      exact Fishing.SameDeep.refl _

theorem AgentStep.deepStep (h : AgentStep c e a ev a') : DeepStep c a ev a' := by
  cases h with
  | ran h_pending _ _ _ h_ran => exact h_ran.deepStep h_pending
  | @heard packet handler x _ h_radio h_pending _ h_taken =>
      have h_phase' : a'.fishPhase = a.fishPhase := by
        unfold fishPhase
        rw [h_taken.pending]
      have h_phase := fishPhase_of_waiting h_pending
      have h_heard : ∀ {msg : SyncMessage},
          stepProtocol c a.protocol e (hears handler msg) = .ok a'.protocol →
            DeepStep c a (.packet packet) a' := by
        intro msg h_step
        cases handler with
        | syncSlot =>
            rcases hearInSyncSlot_deep h_step with h_same | ⟨h_was, h_is, callback, h_deep⟩
            · exact DeepStep.kept nofun nofun h_phase' h_same
            · exact DeepStep.began h_phase (h_phase'.trans h_phase) h_was h_is h_deep
        | fishSlot =>
            rcases hearInFishSlot_deep h_step with h_same | ⟨h_was, h_is⟩
            · exact DeepStep.kept nofun nofun h_phase' h_same
            · exact DeepStep.caught h_phase (h_phase'.trans h_phase) h_was h_is
      cases h_taken with
      | ignored => exact DeepStep.kept nofun nofun h_phase' (Fishing.SameDeep.refl _)
      | goesOn _ h_step => exact h_heard h_step
      | ends _ h_step => exact h_heard h_step
  | @succeeded provision p h_pending _ h_step =>
      refine DeepStep.kept nofun nofun ?_ (stepProtocol_sameDeep h_step rfl)
      rw [fishPhase_of_idle h_pending]
      exact fishPhase_schedule (a := { a with
        clock := e.now, protocol := p, isProvisioning := false }) h_pending .provisionEnd _
  | failed h_pending =>
      refine DeepStep.kept nofun nofun ?_ (Fishing.SameDeep.refl _)
      rw [fishPhase_of_idle h_pending]
      exact fishPhase_schedule (a := { a with clock := e.now, isProvisioning := false })
        h_pending .provisionEnd _

end Steps

end Agent

-- ============================================================================
-- What is remembered of an episode
-- ============================================================================

structure DeepEpisode where
  delta : Nat
  callback : Option DeepFishingCallback
  /-- fish slots started in it -/
  fished : Nat
  /-- calls of its callback -/
  called : Nat
  /-- a superior clique has been caught -/
  caught : Bool
  deriving DecidableEq

namespace DeepEpisode

/-- Before the first. -/
def none : DeepEpisode where
  delta := 0
  callback := Option.none
  fished := 0
  called := 0
  caught := false

end DeepEpisode

/-- The callback that the end of the fish slot calls, if it calls one. -/
def Agent.calledBack (a : Agent) : Option DeepFishingCallback :=
  match a.protocol.fishing.mode with
  | .trolling => none
  | .deepFishing =>
      match a.protocol.fishing.deep.checkDone with
      | .ok callback => callback
      | .error _ => none

/-- An episode begins where the mode becomes that of deep fishing. -/
def noteDeepFishing (a : Agent) (l : Env × AgentEvent) (a' : Agent) (g : DeepEpisode) :
    DeepEpisode :=
  if a.protocol.fishing.mode = .trolling ∧ a'.protocol.fishing.mode = .deepFishing then
    { DeepEpisode.none with
      delta := a'.protocol.fishing.deep.deltaSyncPointToSyncPointOfFishee
      callback := a'.protocol.fishing.deep.fishPolicyDoneCallback }
  else if a.protocol.fishing.mode = .trolling then g
  else
    match l.2 with
    | .timer .fishSlotStart _ => { g with fished := g.fished + 1 }
    | .timer .fishSlotEnd _ => { g with called := g.called + a.calledBack.toList.length }
    | .packet _ =>
        { g with caught := g.caught || decide (a'.protocol.fishing.mode = .trolling) }
    | _ => g

/-- A unit with its present or last episode of deep fishing. -/
def deepFishingSystem (c : Config) : System (Agent × DeepEpisode) (Env × AgentEvent) TaskFault :=
  (agentSystem c).watched DeepEpisode.none noteDeepFishing

abbrev DeepFishingMove := Move (Agent × DeepEpisode) (Env × AgentEvent)

/-- The step ends a fish slot of an episode: nothing has been caught in it. -/
def EndsDeepFishing (t : DeepFishingMove) : Prop :=
  t.before.1.protocol.fishing.mode = .deepFishing ∧ ∃ x, t.label.2 = .timer .fishSlotEnd x

/-- The end of the `n`-th fishing, and of no other, calls the episode's callback
    and takes the unit back to trolling. -/
def EndsEpisodeAt (n : Nat) (t : DeepFishingMove) : Prop :=
  EndsDeepFishing t →
    t.before.1.calledBack = (if t.before.2.fished = n then t.before.2.callback else none) ∧
      (t.after.1.protocol.fishing.mode = .trolling ↔ t.before.2.fished = n)

/-- What holds of an episode whatever its length: its offset and its callback are
    those it began with, its count is that of its fishings, and the callback is
    called once or never, and never after a catch. -/
structure DeepEpisodeHeld (a : Agent) (g : DeepEpisode) : Prop where
  delta : a.protocol.fishing.mode = .deepFishing →
    a.protocol.fishing.deep.deltaSyncPointToSyncPointOfFishee = g.delta
  callback : a.protocol.fishing.mode = .deepFishing →
    a.protocol.fishing.deep.fishPolicyDoneCallback = g.callback ∧ g.callback ≠ none
  count : a.protocol.fishing.mode = .deepFishing →
    a.protocol.fishing.deep.countFishings =
      if a.fishPhase = .planned then g.fished + 1 else g.fished
  uncalled : a.protocol.fishing.mode = .deepFishing → g.called = 0 ∧ g.caught = false
  once : g.called ≤ 1
  caught : g.caught = true → g.called = 0

/-- No episode fishes more than `n` times, and the present one has a fishing left
    while it does not fish. -/
structure FishesAtMost (n : Nat) (a : Agent) (g : DeepEpisode) : Prop where
  le : g.fished ≤ n
  left : a.protocol.fishing.mode = .deepFishing → a.fishPhase ≠ .fishing → g.fished < n

section Episode

variable {c : Config} {e : Env} {a a' : Agent} {ev : AgentEvent} {g : DeepEpisode}

theorem trolling_or_deep (f : Fishing) : f.mode = .trolling ∨ f.mode = .deepFishing := by
  cases f.mode <;> simp

theorem DeepEpisodeHeld.of_trolling (h : DeepEpisodeHeld a g)
    (h_mode : a'.protocol.fishing.mode = .trolling) : DeepEpisodeHeld a' g := by
  have h_not : a'.protocol.fishing.mode = .deepFishing → False := by
    rw [h_mode]
    exact FishingMode.noConfusion
  exact ⟨fun h_deep => (h_not h_deep).elim, fun h_deep => (h_not h_deep).elim,
    fun h_deep => (h_not h_deep).elim, fun h_deep => (h_not h_deep).elim,
    h.once, h.caught⟩

/-- Nothing is noted of a unit that is trolling and goes on so. -/
theorem noteDeepFishing_of_trolling (h_was : a.protocol.fishing.mode = .trolling)
    (h_is : a'.protocol.fishing.mode = .trolling) :
    noteDeepFishing a (e, ev) a' g = g := by
  simp [noteDeepFishing, h_was, h_is]

/-- In an episode that goes on, only the start and the end of a fish slot are noted. -/
theorem noteDeepFishing_of_kept (h_was : a.protocol.fishing.mode = .deepFishing)
    (h_is : a'.protocol.fishing.mode = .deepFishing)
    (h_start : ∀ x, ev ≠ .timer .fishSlotStart x) (h_end : ∀ x, ev ≠ .timer .fishSlotEnd x) :
    noteDeepFishing a (e, ev) a' g = g := by
  simp only [noteDeepFishing, h_was, h_is, reduceCtorEq, false_and, if_false]
  cases ev with
  | timer t x =>
      cases t with
      | fishSlotStart => exact absurd rfl (h_start x)
      | fishSlotEnd => exact absurd rfl (h_end x)
      | _ => rfl
  | packet => simp
  | _ => rfl

theorem DeepEpisodeHeld.count_eq (h : DeepEpisodeHeld a g)
    (h_mode : a.protocol.fishing.mode = .deepFishing) (h_phase : a.fishPhase = .fishing) :
    a.protocol.fishing.deep.countFishings = g.fished := by
  simpa [h_phase] using h.count h_mode

/-- The callback is called where the count has passed the limit. -/
theorem DeepEpisodeHeld.calledBack_eq (h : DeepEpisodeHeld a g)
    (h_mode : a.protocol.fishing.mode = .deepFishing) (h_phase : a.fishPhase = .fishing) :
    a.calledBack =
      if countFishingsPerDeepFishing < g.fished then g.callback else none := by
  obtain ⟨h_callback, h_some⟩ := h.callback h_mode
  obtain ⟨callback, h_is⟩ := Option.ne_none_iff_exists'.1 h_some
  unfold Agent.calledBack DeepFishingPolicy.checkDone
  rw [h_mode, h.count_eq h_mode h_phase, h_callback, h_is]
  by_cases h_many : countFishingsPerDeepFishing < g.fished
  · simp [h_many]
  · simp [h_many]

/-- What the end of a fish slot does to an episode. -/
theorem DeepEpisodeHeld.checkFishingDone {p : Protocol} (h : DeepEpisodeHeld a g)
    (h_mode : a.protocol.fishing.mode = .deepFishing) (h_phase : a.fishPhase = .fishing)
    (h_check : a.protocol.checkFishingDone c = .ok p) :
    (countFishingsPerDeepFishing < g.fished ∧ p.fishing.mode = .trolling) ∨
      (g.fished ≤ countFishingsPerDeepFishing ∧ p = a.protocol) := by
  have h_count := h.count_eq h_mode h_phase
  cases checkFishingDone_checked h_check with
  | goesOn h_goes =>
      rcases h_goes with h_trolling | h_few
      · rw [h_mode] at h_trolling
        cases h_trolling
      · exact Or.inr ⟨h_count ▸ h_few, rfl⟩
  | finished _ h_many => exact Or.inl ⟨h_count ▸ h_many, rfl⟩

theorem checkFishingDone_of_trolling {p p' : Protocol} (h_mode : p.fishing.mode = .trolling)
    (h_check : p.checkFishingDone c = .ok p') : p' = p := by
  unfold Protocol.checkFishingDone at h_check
  rw [h_mode] at h_check
  cases h_check
  rfl

/-- A unit that is trolling goes on so, or an episode begins. -/
theorem DeepStep.of_trolling (h_mode : a.protocol.fishing.mode = .trolling)
    (h_step : a.DeepStep c ev a') :
    a'.protocol.fishing.mode = .trolling ∨
      (a.fishPhase = .none ∧ a'.fishPhase = .none ∧ a'.protocol.fishing.mode = .deepFishing ∧
        ∃ d callback, a'.protocol.fishing.deep = DeepFishingPolicy.restart d callback) := by
  cases h_step with
  | kept _ _ _ h_same => exact Or.inl (h_same.1.trans h_mode)
  | began h_phase h_phase' _ h_is h_deep =>
      exact Or.inr ⟨h_phase, h_phase', h_is, _, _, h_deep⟩
  | planned _ _ _ h_is => exact Or.inl (h_is.trans h_mode)
  | started _ _ h_same => exact Or.inl (h_same.1.trans h_mode)
  | caught _ _ _ h_is => exact Or.inl h_is
  | ended _ _ h_check =>
      rw [checkFishingDone_of_trolling h_mode h_check]
      exact Or.inl h_mode

/-- What holds of an episode is kept by every step of the unit. -/
theorem DeepEpisodeHeld.step (h : DeepEpisodeHeld a g) (h_step : a.DeepStep c ev a') :
    DeepEpisodeHeld a' (noteDeepFishing a (e, ev) a' g) := by
  rcases trolling_or_deep a.protocol.fishing with h_mode | h_mode
  · rcases DeepStep.of_trolling h_mode h_step with h_is | ⟨-, h_phase', h_is, d, callback, h_deep⟩
    · rw [noteDeepFishing_of_trolling h_mode h_is]
      exact h.of_trolling h_is
    · simp only [noteDeepFishing, h_mode, h_is, and_self, if_true]
      constructor <;> simp [h_deep, h_phase', DeepEpisode.none, DeepFishingPolicy.restart]
  obtain ⟨h_called, h_uncaught⟩ := h.uncalled h_mode
  have h_count := h.count h_mode
  cases h_step with
  | kept h_start h_end h_phase h_same =>
      rw [noteDeepFishing_of_kept h_mode (h_same.1.trans h_mode) h_start h_end]
      exact ⟨fun _ => h_same.2 ▸ h.delta h_mode, fun _ => h_same.2 ▸ h.callback h_mode,
        fun _ => h_same.2 ▸ h_phase ▸ h_count, fun _ => h.uncalled h_mode, h.once, h.caught⟩
  | began _ _ h_was => exact absurd (h_mode.symm.trans h_was) (by decide)
  | planned h_t h_phase h_phase' h_is h_deep =>
      rw [noteDeepFishing_of_kept h_mode (h_is.trans h_mode) (by rintro y ⟨⟩; cases h_t)
        (by rintro y ⟨⟩; cases h_t)]
      rw [h_mode, if_pos rfl] at h_deep
      rw [h_phase, if_neg (by decide)] at h_count
      refine ⟨fun _ => ?_, fun _ => ?_, fun _ => ?_, fun _ => h.uncalled h_mode, h.once,
        h.caught⟩
      · rw [h_deep]
        exact h.delta h_mode
      · rw [h_deep]
        exact h.callback h_mode
      · simp [h_deep, h_phase', h_count]
  | started h_phase h_phase' h_same =>
      simp only [noteDeepFishing, h_mode, reduceCtorEq, false_and, if_false]
      rw [h_phase, if_pos rfl] at h_count
      refine ⟨fun _ => h_same.2 ▸ h.delta h_mode, fun _ => h_same.2 ▸ h.callback h_mode,
        fun _ => ?_, fun _ => h.uncalled h_mode, h.once, h.caught⟩
      simp [h_phase', h_same.2, h_count]
  | caught h_phase h_phase' h_was h_is =>
      simp only [noteDeepFishing, h_mode, h_is, reduceCtorEq, false_and, if_false]
      constructor <;> simp [h_is, h_called]
  | ended h_phase h_phase' h_check =>
      simp only [noteDeepFishing, h_mode, reduceCtorEq, false_and, if_false]
      rw [h.calledBack_eq h_mode h_phase]
      rw [h_phase, if_neg (by decide)] at h_count
      rcases h.checkFishingDone h_mode h_phase h_check with ⟨h_many, h_is⟩ | ⟨h_few, h_same⟩
      · constructor <;> simp [h_is, h_called, h_uncaught, h_many]
      · rw [if_neg (Nat.not_lt.2 h_few)]
        show DeepEpisodeHeld a' g
        refine ⟨fun _ => h_same ▸ h.delta h_mode, fun _ => h_same ▸ h.callback h_mode,
          fun _ => ?_, fun _ => h.uncalled h_mode, h.once, h.caught⟩
        simp [h_same, h_phase', h_count]

/-- The bound is kept if an episode is over that ends its `n`-th fishing. -/
theorem FishesAtMost.step {n : Nat} (h : FishesAtMost n a g) (h_n : 0 < n)
    (h_step : a.DeepStep c ev a')
    (h_over : a.protocol.fishing.mode = .deepFishing → (∃ x, ev = .timer .fishSlotEnd x) →
      g.fished = n → a'.protocol.fishing.mode = .trolling) :
    FishesAtMost n a' (noteDeepFishing a (e, ev) a' g) := by
  have h_le := h.le
  rcases trolling_or_deep a.protocol.fishing with h_mode | h_mode
  · rcases DeepStep.of_trolling h_mode h_step with h_is | ⟨-, -, h_is, -⟩
    · rw [noteDeepFishing_of_trolling h_mode h_is]
      exact ⟨h_le, fun h_deep => absurd (h_is.symm.trans h_deep) (by decide)⟩
    · simp only [noteDeepFishing, h_mode, h_is, and_self, if_true]
      exact ⟨Nat.zero_le n, fun _ _ => h_n⟩
  cases h_step with
  | kept h_start h_end h_phase h_same =>
      rw [noteDeepFishing_of_kept h_mode (h_same.1.trans h_mode) h_start h_end]
      exact ⟨h_le, fun _ => h_phase ▸ h.left h_mode⟩
  | began _ _ h_was => exact absurd (h_mode.symm.trans h_was) (by decide)
  | planned h_t h_phase h_phase' h_is =>
      rw [noteDeepFishing_of_kept h_mode (h_is.trans h_mode) (by rintro y ⟨⟩; cases h_t)
        (by rintro y ⟨⟩; cases h_t)]
      exact ⟨h_le, fun _ _ => h.left h_mode (by simp [h_phase])⟩
  | started h_phase h_phase' =>
      have h_left := h.left h_mode (by simp [h_phase])
      simp only [noteDeepFishing, h_mode, reduceCtorEq, false_and, if_false]
      exact ⟨h_left, fun _ h_not => absurd h_phase' h_not⟩
  | caught _ _ _ h_is =>
      simp only [noteDeepFishing, h_mode, h_is, reduceCtorEq, false_and, if_false]
      exact ⟨h_le, fun h_deep => absurd (h_is.symm.trans h_deep) (by decide)⟩
  | ended =>
      simp only [noteDeepFishing, h_mode, reduceCtorEq, false_and, if_false]
      refine ⟨h_le, fun h_deep _ => Nat.lt_of_le_of_ne h_le fun h_eq => ?_⟩
      exact absurd ((h_over h_mode ⟨_, rfl⟩ h_eq).symm.trans h_deep) (by decide)

theorem DeepStep.of_fishSlotEnd {x : Nat} (h_step : a.DeepStep c (.timer .fishSlotEnd x) a') :
    a.fishPhase = .fishing ∧ a.protocol.checkFishingDone c = .ok a'.protocol := by
  cases h_step with
  | kept _ h_end => exact absurd rfl (h_end x)
  | planned h_t => cases h_t
  | ended h_phase _ h_check => exact ⟨h_phase, h_check⟩

end Episode

-- ============================================================================
-- Runs
-- ============================================================================

section Runs

variable {c : Config}

theorem agentSystem_deepStep {a a' : Agent} {l : Env × AgentEvent}
    (h : (agentSystem c).Reachable a) (h_en : (agentSystem c).enabled a l)
    (h_step : stepAgent c a l.1 l.2 = .ok a') : a.DeepStep c l.2 a' :=
  (Agent.stepAgent_step (agentSystem_oneTask h.guarded_true) h_en.2 h_step).deepStep

theorem deepFishingSystem_held {w : Agent × DeepEpisode}
    (h : (deepFishingSystem c).Reachable w) : DeepEpisodeHeld w.1 w.2 := by
  refine System.Reachable.watched_invariant DeepEpisodeHeld h.guarded_true ?_ ?_
  · rintro a ⟨initTime, loopTime, -, rfl⟩
    exact ⟨nofun, nofun, nofun, nofun, Nat.zero_le _, nofun⟩
  · rintro a g ⟨e, ev⟩ a' h_a h_g h_en - h_step
    exact h_g.step (agentSystem_deepStep h_a h_en h_step)

/-- The bound holds of a run in which no episode goes on after `n` fishings. -/
theorem fishesAtMost_of_guarded {n : Nat}
    {ok : Agent × DeepEpisode → Env × AgentEvent → Prop} {w : Agent × DeepEpisode}
    (h : ((deepFishingSystem c).guarded ok).Reachable w) (h_n : 0 < n)
    (h_ok : ∀ w l, ok w l → w.1.protocol.fishing.mode = .deepFishing →
      (∃ x, l.2 = .timer .fishSlotEnd x) → w.2.fished = n → countFishingsPerDeepFishing < n) :
    FishesAtMost n w.1 w.2 := by
  refine h.invariant_of_reachable (fun w => FishesAtMost n w.1 w.2) ?_ ?_
  · rintro ⟨a, g⟩ ⟨⟨initTime, loopTime, -, rfl⟩, h_g⟩
    have h_none : g = DeepEpisode.none := h_g
    rw [h_none]
    exact ⟨Nat.zero_le n, nofun⟩
  · rintro ⟨a, g⟩ ⟨e, ev⟩ ⟨a', g'⟩ h_reach h_most ⟨h_en, h_l⟩ h_next
    have h_watched : (deepFishingSystem c).step (a, g) (e, ev) = .ok (a', g') := h_next
    obtain ⟨h_step, h_g'⟩ := System.watched_step_eq_ok.1 h_watched
    have h_held := deepFishingSystem_held h_reach.of_guarded
    have h_deep := agentSystem_deepStep h_reach.of_guarded.unwatched h_en h_step
    dsimp only at h_g' h_deep h_held ⊢
    rw [h_g']
    refine h_most.step h_n h_deep ?_
    rintro h_mode ⟨x, rfl⟩ h_fished
    have h_many := h_ok _ _ h_l h_mode ⟨x, rfl⟩ h_fished
    obtain ⟨h_phase, h_check⟩ := DeepStep.of_fishSlotEnd h_deep
    rcases h_held.checkFishingDone h_mode h_phase h_check with ⟨-, h_is⟩ | ⟨h_few, -⟩
    · exact h_is
    · dsimp only at h_few h_fished
      omega

/-- No run has a fishing after the one that ends an episode. -/
theorem deepFishingSystem_fishesAtMost {w : Agent × DeepEpisode}
    (h : (deepFishingSystem c).Reachable w) :
    FishesAtMost (countFishingsPerDeepFishing + 1) w.1 w.2 :=
  fishesAtMost_of_guarded h.guarded_true (Nat.succ_pos _) fun _ _ _ _ _ _ => Nat.lt_succ_self _

/-- The end of a fish slot is no fishing. -/
theorem fished_of_ends {t : DeepFishingMove}
    (h_step : (deepFishingSystem c).step t.before t.label = .ok t.after)
    (h_ends : EndsDeepFishing t) : t.after.2.fished = t.before.2.fished := by
  obtain ⟨⟨a, g⟩, ⟨e, ev⟩, ⟨a', g'⟩⟩ := t
  obtain ⟨h_mode, x, h_ev⟩ := h_ends
  obtain ⟨-, h_g'⟩ := System.watched_step_eq_ok.1 h_step
  dsimp only at h_mode h_ev h_g' ⊢
  subst h_ev
  simp [h_g', noteDeepFishing, h_mode]

/-- A fish slot that ends without a catch ends its episode if it is the one after
    the last that should be, and no other does. -/
theorem endsEpisodeAt_seventh {t : DeepFishingMove}
    (h : (deepFishingSystem c).Reachable t.before)
    (h_en : (deepFishingSystem c).enabled t.before t.label)
    (h_step : (deepFishingSystem c).step t.before t.label = .ok t.after) :
    EndsEpisodeAt (countFishingsPerDeepFishing + 1) t := by
  rintro ⟨h_mode, x, h_ev⟩
  have h_held := deepFishingSystem_held h
  have h_le := (deepFishingSystem_fishesAtMost h).le
  have h_deep := agentSystem_deepStep h.unwatched h_en (System.watched_step_eq_ok.1 h_step).1
  rw [h_ev] at h_deep
  obtain ⟨h_phase, h_check⟩ := DeepStep.of_fishSlotEnd h_deep
  rw [h_held.calledBack_eq h_mode h_phase]
  rcases h_held.checkFishingDone h_mode h_phase h_check with ⟨h_many, h_is⟩ | ⟨h_few, h_same⟩
  · have h_last : t.before.2.fished = countFishingsPerDeepFishing + 1 := by omega
    simp [h_last, h_is]
  · have h_not : t.before.2.fished ≠ countFishingsPerDeepFishing + 1 := by omega
    simp [h_not, Nat.not_lt.2 h_few, h_same, h_mode]

/-- In every run, an episode that catches nothing calls its callback and is over
    at the end of its last fishing, and has no more fishings than it should,
    exactly if none is without a catch until the end of the sixth; at the end of
    a seventh it always is over.  What is called, and what the episode's offset,
    count and callback are, does not depend on its length. -/
theorem deep_episode_length_iff {w : (Agent × DeepEpisode) × List DeepFishingMove}
    (h : (deepFishingSystem c).recorded.Reachable w) :
    ((∀ t ∈ w.2, EndsEpisodeAt countFishingsPerDeepFishing t ∧
        t.after.2.fished ≤ countFishingsPerDeepFishing) ↔
      ∀ t ∈ w.2, EndsDeepFishing t → t.before.2.fished ≠ countFishingsPerDeepFishing) ∧
    (∀ t ∈ w.2, EndsEpisodeAt (countFishingsPerDeepFishing + 1) t) ∧
    DeepEpisodeHeld w.1.1 w.1.2 := by
  have h_seventh : ∀ t ∈ w.2, EndsEpisodeAt (countFishingsPerDeepFishing + 1) t := by
    intro t h_t
    obtain ⟨h_reach, h_en, h_step⟩ := h.recorded_moves t h_t
    exact endsEpisodeAt_seventh h_reach h_en h_step
  refine ⟨⟨fun h_all t h_t h_ends h_sixth => ?_, fun h_none t h_t => ?_⟩, h_seventh,
    deepFishingSystem_held h.unwatched⟩
  · -- at the sixth nothing is called
    obtain ⟨-, h_mode⟩ := (h_all t h_t).1 h_ends
    obtain ⟨-, h_mode'⟩ := h_seventh t h_t h_ends
    have h_both := h_mode'.1 (h_mode.2 h_sixth)
    omega
  · have h_run := h.recorded_guarded (fun w l => w.1.protocol.fishing.mode = .deepFishing →
      (∃ x, l.2 = .timer .fishSlotEnd x) → w.2.fished ≠ countFishingsPerDeepFishing)
      (fun t h_t h_mode h_ev => h_none t h_t ⟨h_mode, h_ev⟩)
    have h_le : t.after.2.fished ≤ countFishingsPerDeepFishing := by
      refine (fishesAtMost_of_guarded (h_run.2 t h_t) (by decide) ?_).le
      intro _ _ h_ok h_mode h_ev h_sixth
      exact absurd h_sixth (h_ok h_mode h_ev)
    refine ⟨fun h_ends => ?_, h_le⟩
    obtain ⟨h_called, h_mode⟩ := h_seventh t h_t h_ends
    rw [fished_of_ends (h.recorded_moves t h_t).2.2 h_ends] at h_le
    have h_not : t.before.2.fished ≠ countFishingsPerDeepFishing + 1 := by omega
    rw [if_neg (h_none t h_t h_ends)]
    rw [if_neg h_not] at h_called
    exact ⟨h_called, iff_of_false (fun h_is => h_not (h_mode.1 h_is)) (h_none t h_t h_ends)⟩

end Runs

-- ============================================================================
-- Seven fishings, and a catch in the second
-- ============================================================================

/-- From the end of the fish slot that began at `start` to the beginning of the next,
    with a sync slot in which nothing is heard. -/
def deepPeriod (start : Nat) : List (Env × AgentEvent) :=
  [onTime .fishSlotEnd (start + 50),
    onTime .startSyncSlotWithoutScheduledPrelude (start + 40000),
    onTime .endSyncSlotListen (start + 40050),
    onTime .theRadioPreludeTaskWFish (start + 79950),
    onTime .fishSlotStart (start + 80000)]

/-- Unit five in `n` periods of the episode that it begins in the first. -/
def fishesDeepFor (n : Nat) : List (Env × AgentEvent) :=
  fishesDeep ++ (List.range (n - 1)).flatMap fun i => deepPeriod (120000 + 80000 * i)

theorem bootedFive_deep_init : (deepFishingSystem unitFive).recorded.init
    ((Agent.boot unitFive 0 0, DeepEpisode.none), []) :=
  ⟨⟨⟨0, 0, Nat.le_refl 0, rfl⟩, rfl⟩, rfl⟩

instance (c : Config) (w : (Agent × DeepEpisode) × List DeepFishingMove)
    (l : Env × AgentEvent) : Decidable ((deepFishingSystem c).recorded.enabled w l) :=
  inferInstanceAs (Decidable ((agentSystem c).enabled w.1.1 l))

/-- The step is that of an `isFishSlotEnd` task. -/
def AgentEvent.isFishSlotEnd : AgentEvent → Bool
  | .timer .fishSlotEnd _ => true
  | _ => false

theorem endsDeepFishing_iff {t : DeepFishingMove} : EndsDeepFishing t ↔
    t.before.1.protocol.fishing.mode = .deepFishing ∧ t.label.2.isFishSlotEnd = true := by
  refine and_congr_right fun _ => ⟨?_, fun h => ?_⟩
  · rintro ⟨x, h_ev⟩
    rw [h_ev]
    rfl
  · unfold AgentEvent.isFishSlotEnd at h
    split at h
    · exact ⟨_, ‹_›⟩
    · cases h

instance (t : DeepFishingMove) : Decidable (EndsDeepFishing t) :=
  decidable_of_iff _ endsDeepFishing_iff.symm

/-- Nothing is caught in the first fish slot, and three in the second. -/
theorem deep_episode_length_iff_catchesThree :
    ∃ w, (deepFishingSystem unitFive).recorded.Reachable w ∧ w.1.2.caught = true ∧
      (∃ t ∈ w.2, EndsDeepFishing t) ∧
      ∀ t ∈ w.2, EndsEpisodeAt countFishingsPerDeepFishing t ∧
        t.after.2.fished ≤ countFishingsPerDeepFishing := by
  obtain ⟨w, h, h_caught, h_ends, h_none⟩ :=
    System.Reachable.exists_of_play (M := (deepFishingSystem unitFive).recorded)
      (P := fun w => w.1.2.caught = true ∧ (∃ t ∈ w.2, EndsDeepFishing t) ∧
        ∀ t ∈ w.2, EndsDeepFishing t → t.before.2.fished ≠ countFishingsPerDeepFishing)
      (fishesDeepFor 2 ++ [arrives 200025 (masterSyncFrom 3 ⟨79975, by decide⟩)])
      bootedFive_deep_init (by decide +kernel)
  exact ⟨w, h, h_caught, h_ends, (deep_episode_length_iff h).1.2 h_none⟩

/-- Unit five catches nothing: at the end of its sixth fish slot it goes on, and
    its callback is called after a seventh. -/
theorem deep_episode_fishes_seven :
    ∃ w, (deepFishingSystem unitFive).recorded.Reachable w ∧ w.1.2.fished = 7 ∧
      w.1.2.called = 1 ∧
      ∃ t ∈ w.2, EndsDeepFishing t ∧ t.before.2.fished = countFishingsPerDeepFishing ∧
        t.before.1.calledBack = none ∧ t.before.2.callback = some .endWithNoAction :=
  System.Reachable.exists_of_play (M := (deepFishingSystem unitFive).recorded)
    (P := fun w => w.1.2.fished = 7 ∧ w.1.2.called = 1 ∧
      ∃ t ∈ w.2, EndsDeepFishing t ∧ t.before.2.fished = countFishingsPerDeepFishing ∧
        t.before.1.calledBack = none ∧ t.before.2.callback = some .endWithNoAction)
    (fishesDeepFor 7 ++ [onTime .fishSlotEnd 600050]) bootedFive_deep_init (by decide +kernel)

end SleepSync
