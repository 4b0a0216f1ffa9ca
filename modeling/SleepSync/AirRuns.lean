/-
  SleepSync.AirRuns

  Runs of any number of units on one radio channel.

  A unit among others runs as it does alone, so what is known of one unit's tasks
  holds of each.  What is about several of them is proved over the events of the
  protocol (`air_keeps`): a unit keeps its own invariant as long as what it
  hears is good, and transmits only what is good.
-/

import SleepSync.AirFrames

namespace SleepSync

open Lib

-- ============================================================================
-- What one step of a unit changes
-- ============================================================================

namespace Agent

variable {c : Config} {e : Env} {a a' : Agent} {ev : AgentEvent}

/-- A valid message is what its packet is read as. -/
theorem messageOf_eq_some {packet : Option RadioBuffer} {msg : SyncMessage}
    (h : messageOf packet = some msg) :
    ∃ buffer, packet = some buffer ∧ Serializer.unserialize buffer = .ok (some msg) := by
  cases packet with
  | none => cases h
  | some buffer =>
      refine ⟨buffer, rfl, ?_⟩
      unfold messageOf at h
      dsimp only at h
      split at h
      · rename_i h_read
        rw [h_read, h]
      · cases h

/-- An event brings no valid message, leaves the protocol, or is the handling of a
    message. -/
theorem AgentStep.unheard_or_handled (h : AgentStep c e a ev a') :
    (∀ event, PartOf ev event → event.heard = none) ∨ a'.protocol = a.protocol ∨
      ∃ handler msg, ev.message = some msg ∧ a.radio = some handler ∧
        stepProtocol c a.protocol e (hears handler msg) = .ok a'.protocol := by
  have h_unheard : (∀ packet, ev ≠ .packet packet) →
      ∀ event, PartOf ev event → event.heard = none := by
    intro h_ev event h_part
    cases h_part with
    | task h_task => exact ProtocolEvent.heard_of_isTask h_task
    | message h_msg =>
        cases ev with
        | packet packet => exact absurd rfl (h_ev packet)
        | _ => cases h_msg
    | provision => rfl
  cases h with
  | ran => exact Or.inl (h_unheard fun _ => AgentEvent.noConfusion)
  | succeeded => exact Or.inl (h_unheard fun _ => AgentEvent.noConfusion)
  | failed => exact Or.inl (h_unheard fun _ => AgentEvent.noConfusion)
  | heard h_radio _ _ h_taken =>
      cases h_taken with
      | ignored => exact Or.inr (Or.inl rfl)
      | goesOn h_msg h_step => exact Or.inr (Or.inr ⟨_, _, h_msg, h_radio, h_step⟩)
      | ends h_msg h_step => exact Or.inr (Or.inr ⟨_, _, h_msg, h_radio, h_step⟩)

end Agent

namespace Units

/-- One step of one of the units. -/
abbrev AirMove (ι : Type) : Type := Move (ι → Agent) (ι × (Env × AgentEvent))

variable {ι : Type} {u : Units ι} {zero : ι → ℤ}

/-- Frame `f` of unit `j` brings `msg` to unit `i`, at the time of arrival in `e`. -/
structure HeardFrom (u : Units ι) (zero : ι → ℤ) (i : ι) (e : Env) (msg : SyncMessage) (j : ι)
    (f : Frame) : Prop where
  read : Serializer.unserialize f.buffer = .ok (some msg)
  arrival : zero i + e.timeOfArrival =
    zero j + f.sentAt + PhysicalParameters.sendLatency (u.config j).platform

/-- What a unit hears was sent. -/
theorem heardFrom_of_air {J : ι → Frame → Prop} {i : ι} {l : Env × AgentEvent} {msg : SyncMessage}
    (h : (u.stations zero).deaf l ∨ ∃ j f, J j f ∧ (u.stations zero).arrives j i f l)
    (h_msg : l.2.message = some msg) : ∃ j f, J j f ∧ u.HeardFrom zero i l.1 msg j f := by
  obtain ⟨e, ev⟩ := l
  cases ev with
  | packet packet =>
      obtain ⟨buffer, rfl, h_read⟩ := Agent.messageOf_eq_some h_msg
      rcases h with h_deaf | ⟨j, f, h_J, h_ev, h_arrival⟩
      · cases h_deaf
      · cases h_ev
        exact ⟨j, f, h_J, h_read, h_arrival⟩
  | _ => cases h_msg

variable [DecidableEq ι] {ok : (ι → Agent) → ι × (Env × AgentEvent) → Prop} {w : ι → Agent}

/-- A unit hears what is on the air. -/
theorem heardFrom_of_enabled {l : ι × (Env × AgentEvent)} {msg : SyncMessage}
    (h_en : (u.stations zero).air.enabled w l) (h_msg : l.2.2.message = some msg) :
    ∃ j, ∃ f ∈ (w j).frames, u.HeardFrom zero l.1 l.2.1 msg j f := by
  have h_heard : (u.stations zero).deaf l.2 ∨
      ∃ j f, (f ∈ (w j).frames) ∧ (u.stations zero).arrives j l.1 f l.2 := by
    rcases h_en.2 with h_deaf | ⟨j, f, h_f, h_arrives⟩
    · exact Or.inl h_deaf
    · exact Or.inr ⟨j, f, h_f, h_arrives⟩
  obtain ⟨j, f, h_f, h_from⟩ :=
    heardFrom_of_air (J := fun j f => f ∈ (w j).frames) h_heard h_msg
  exact ⟨j, f, h_f, h_from⟩

/-- A unit among others runs as it does alone. -/
theorem air_agent (h : ((u.stations zero).air.guarded ok).Reachable w) (i : ι) :
    (agentSystem (u.config i)).Reachable (w i) := by
  have h_alone : ∀ i, (((u.stations zero).station i).guarded fun _ _ => True).Reachable (w i) :=
    Stations.air_station (fun _ _ _ _ => trivial) h
  exact (h_alone i).of_guarded

/-- The rule for what the protocol of every unit keeps, and every frame on the air,
    from a reachable state on. -/
theorem air_keeps (P : ι → Protocol → Prop) (J : ι → Frame → Prop) {w₀ : ι → Agent}
    (h_start : ((u.stations zero).air.guarded ok).Reachable w₀)
    (h_run : ((u.stations zero).air.guarded ok).Leads w₀ w)
    (h₀ : ∀ i, P i (w₀ i).protocol ∧ ∀ f ∈ (w₀ i).frames, J i f)
    (h_event : ∀ i s e ev p event p', ok s (i, (e, ev)) → Agent.PartOf ev event → P i p →
      event.Timely p e → (∀ msg ∈ event.heard, ∃ j f, J j f ∧ u.HeardFrom zero i e msg j f) →
        stepProtocol (u.config i) p e event = .ok p' → P i p')
    (h_send : ∀ i s e ev msg, ok s (i, (e, ev)) → P i (s i).protocol →
      (agentSystem (u.config i)).Reachable (s i) →
        (agentSystem (u.config i)).enabled (s i) (e, ev) →
          (s i).Transmits (u.config i) e ev msg → J i ⟨e.now, bufferOf msg⟩) :
    ∀ i, P i (w i).protocol ∧ ∀ f ∈ (w i).frames, J i f := by
  refine Stations.air_invariant (fun i a => P i a.protocol) J h_start h_run h₀ ?_
  rintro s i ⟨e, ev⟩ a' h_reach h_P h_J h_en h_ok h_good h_next
  have h_alone := air_agent h_reach i
  have h_one := agentSystem_oneTask h_alone.guarded_true
  have h_step := Agent.stepAgent_step h_one h_en.2 h_next
  refine ⟨?_, ?_⟩
  · refine h_step.keeps h_en.1 h_en.2 (agentSystem_periodKept h_alone) ?_ h_P
    intro p event p' h_p h_timely h_part h_event'
    refine h_event i s e ev p event p' h_ok h_part h_p h_timely ?_ h_event'
    exact fun msg h_msg => heardFrom_of_air h_good (h_part.heard msg h_msg)
  · rcases h_step.frames_eq with h_same | ⟨msg, h_transmits, h_frames⟩
    · show ∀ f ∈ a'.frames, J i f
      rw [h_same]
      exact h_J
    · show ∀ f ∈ a'.frames, J i f
      rw [h_frames]
      exact List.forall_mem_cons.2 ⟨h_send i s e ev msg h_ok h_P h_alone h_en h_transmits, h_J⟩

end Units

end SleepSync
