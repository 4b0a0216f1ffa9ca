/-
  SleepSync.DriftingClocks

  How long a clique stays in sync without a message.

  `Agreement` is about clocks of one rate.  Here the rates differ, as those of
  crystals do: what a unit has adopted from another drifts away from it by twice
  the rate for each tick since the message.  As long as that is less than half a
  slot, what the sender sends in the middle of its sync slot arrives in the sync
  slot of the unit, though it has heard nothing in between.

  The latency of a message is known to a jitter only, to which belongs the part of
  a tick that a reading of the clock leaves out.
-/

import Mathlib.Data.Rat.Cast.Order
import SleepSync.Agreement
import SleepSync.Dropout
import SleepSync.Lib.Drift
import SleepSync.PeriodExtension

namespace SleepSync

open Lib ScheduleParameters PhysicalParameters

namespace Protocol

/-- No message and no scatter adjusts the schedule, and no dropout reverts it: where
    one is declared, the unit grabs mastership and leaves the schedule. -/
def Undisturbed (c : Config) (p : Protocol) (l : Env × ProtocolEvent) : Prop :=
  p.farthestEnd c l.1 l.2 = none ∧
    (l.2 = .endListen → p.isSelfMaster c = true ∨
      p.countSyncSlotsWithoutSyncMsg < Policy.maxMissingSyncsPerDropout ∨ p.popsToSelf c = true)

variable {c : Config} {e : Env} {p p' : Protocol} {ev : ProtocolEvent}

/-- Then it rolls forward, or stays. -/
theorem Undisturbed.schedule (h : p.Undisturbed c (e, ev))
    (h_step : stepProtocol c p e ev = .ok p') : p'.schedule =
      if ev = .rollPeriodForward then p.schedule.rollPeriodForward else p.schedule := by
  by_cases h_roll : ev = .rollPeriodForward
  · subst h_roll
    cases h_step
    rfl
  rw [if_neg h_roll]
  by_cases h_listen : ev = .endListen
  · subst h_listen
    cases endListen_ended h_step with
    | asMaster => rfl
    | missed => rfl
    | grabbed => rfl
    | @reverted hist _ _ h_slave h_count h_pop h_other =>
        rcases h.2 rfl with h_master | h_few | h_self
        · rw [h_slave] at h_master
          cases h_master
        · omega
        · obtain ⟨-, h_done⟩ := require_bind_eq_ok.1 h_pop
          cases h_done
          exact absurd h_self (ne_true_of_eq_false h_other)
  · rcases stepProtocol_adjusts h_step h_roll h_listen with
      ⟨msg, h_far, -⟩ | ⟨h_far, -⟩ | ⟨-, h_same⟩
    · cases h.1.symm.trans h_far
    · cases h.1.symm.trans h_far
    · exact h_same

end Protocol

/-- The unit, with how often it has rolled its period forward. -/
def rollsSystem (c : Config) : System (Protocol × Nat) (Env × ProtocolEvent) Fault :=
  (protocolSystem c).watched 0 fun _ l _ n => if l.2 = .rollPeriodForward then n + 1 else n

/-- `n` periods later, in which nothing has disturbed the schedule. -/
def UndisturbedFor (c : Config) (n : Nat) (p p' : Protocol) : Prop :=
  ((rollsSystem c).guarded fun w l => w.1.Undisturbed c l).Leads (p, 0) (p', n)

theorem UndisturbedFor.timeOfNextSyncPoint {c : Config} {n : Nat} {p p' : Protocol}
    (h : UndisturbedFor c n p p') : p'.schedule.timeOfNextSyncPoint =
      p.schedule.timeOfNextSyncPoint + n * normalSyncPeriodDuration := by
  have h_keeps : ((rollsSystem c).guarded fun w l => w.1.Undisturbed c l).Preserves
      fun w => w.1.schedule = Schedule.rollPeriodForward^[w.2] p.schedule := by
    rintro ⟨q, n⟩ ⟨e, ev⟩ ⟨q', n'⟩ h_q ⟨-, h_undisturbed⟩ h_next
    have h_rolls : (rollsSystem c).step (q, n) (e, ev) = .ok (q', n') := h_next
    obtain ⟨h_step, h_n'⟩ := System.watched_step_eq_ok.1 h_rolls
    dsimp only at h_q h_step h_n' h_undisturbed ⊢
    rw [h_undisturbed.schedule h_step, h_n', h_q]
    split
    · rw [Function.iterate_succ_apply']
    · rfl
  have h_end : p'.schedule = Schedule.rollPeriodForward^[n] p.schedule := h_keeps.leads h rfl
  unfold Schedule.timeOfNextSyncPoint
  rw [h_end, Schedule.iterate_rollPeriodForward_end]

-- ============================================================================
-- Sender and receiver
-- ============================================================================

section Drift

variable {cS cR : Config} {eS eR : Env} {s r r' : Protocol} {ev : ProtocolEvent}
  {msg : SyncMessage} {ρ jitter : ℚ} {A B : DriftingClock ℚ ρ}

/-- The sync point that a message announces, by the clock of its sender. -/
theorem timeOfNextSyncPoint_of_message (h_s : (protocolSystem cS).Reachable s)
    (h_msg : s.sendMasterSync cS eS = .ok msg ∨ ∃ work, s.sendWorkSync cS eS work = .ok msg)
    (h_slot : s.schedule.startTimeOfSyncPeriod ≤ eS.now)
    (h_left : eS.now + sendLatency cS.platform ≤ s.schedule.timeOfNextSyncPoint) :
    s.schedule.timeOfNextSyncPoint =
      eS.now + sendLatency cS.platform + msg.deltaToNextSyncPoint.get := by
  have h_get : msg.deltaToNextSyncPoint.get = s.syncOffset cS eS := by
    rcases h_msg with h_master | ⟨work, h_work⟩
    · exact (Protocol.initSyncMessage_eq_ok h_master).2.2.2
    · exact (Protocol.initSyncMessage_eq_ok h_work).2.2.2
  rw [Protocol.syncOffset_eq (protocolSystem_inBounds h_s) h_slot] at h_get
  omega

/-- The sync point that a receiver adopts, which can be a period later. -/
theorem timeOfNextSyncPoint_of_adopted (h_adopts : ev.Adopts r msg)
    (h_step : stepProtocol cR r eR ev = .ok r') :
    ∃ b ≤ 1, r'.schedule.timeOfNextSyncPoint = eR.timeOfArrival +
      (msg.deltaToNextSyncPoint.get + b * normalSyncPeriodDuration) := by
  have h_adjust := Schedule.adjustBySyncMsg_eq_ok.1 (h_adopts.adjusts h_step)
  obtain ⟨-, -, h_end⟩ := Schedule.adjust_frame h_adjust
  unfold Schedule.timeOfNextSyncPoint
  rw [h_end]
  unfold Schedule.adjustedEndTime Schedule.adjustedEventTimeFromMsg
  split
  · exact ⟨1, Nat.le_refl 1, by omega⟩
  · exact ⟨0, Nat.zero_le 1, by omega⟩

/-- Undisturbed, both run for the same number of ticks from the message on: the sender
    from its arrival by the sender's clock, the receiver by its own. -/
theorem ticks_of_undisturbed (h_s : (protocolSystem cS).Reachable s)
    (h_msg : s.sendMasterSync cS eS = .ok msg ∨ ∃ work, s.sendWorkSync cS eS work = .ok msg)
    (h_slot : s.schedule.startTimeOfSyncPeriod ≤ eS.now)
    (h_left : eS.now + sendLatency cS.platform ≤ s.schedule.timeOfNextSyncPoint)
    (h_adopts : ev.Adopts r msg) (h_step : stepProtocol cR r eR ev = .ok r') :
    ∃ b ≤ 1, ∀ n s'' r'', UndisturbedFor cR n r' r'' → UndisturbedFor cS (n + b) s s'' →
      ∃ ticks, r''.schedule.timeOfNextSyncPoint = eR.timeOfArrival + ticks ∧
        s''.schedule.timeOfNextSyncPoint = eS.now + sendLatency cS.platform + ticks ∧
        n * normalSyncPeriodDuration ≤ ticks ∧ ticks ≤ (n + 2) * normalSyncPeriodDuration := by
  have h_announced := timeOfNextSyncPoint_of_message h_s h_msg h_slot h_left
  have h_offset := msg.deltaToNextSyncPoint.isValidValue
  obtain ⟨b, h_b, h_adopted⟩ := timeOfNextSyncPoint_of_adopted h_adopts h_step
  have h_periods : b * normalSyncPeriodDuration ≤ 1 * normalSyncPeriodDuration :=
    Nat.mul_le_mul_right _ h_b
  refine ⟨b, h_b, fun n s'' r'' h_r'' h_s'' =>
    ⟨msg.deltaToNextSyncPoint.get + (n + b) * normalSyncPeriodDuration, ?_, ?_, ?_, ?_⟩⟩
  · rw [h_r''.timeOfNextSyncPoint, h_adopted, Nat.add_mul]
    omega
  · rw [h_s''.timeOfNextSyncPoint, h_announced]
    omega
  · rw [Nat.add_mul]
    omega
  · rw [Nat.add_mul, Nat.add_mul]
    omega

/-- What is sent in the middle of a slot arrives in the slot of a receiver whose sync
    point is off by less than half of it. -/
theorem arrives_in_slot (h_ρ : ρ < 1) {x y toa : Nat} {off : ℚ} {p : Platform}
    (h_apart : |B.time y - A.time x| ≤ off)
    (h_small : off + jitter + 2 * (ρ * virtualSlotDuration) ≤ halfSlotDuration)
    (h_toa : |B.time toa -
      (A.time (x + deltaSyncSlotStartToSyncSlotXmit p) + sendLatency p)| ≤ jitter) :
    y ≤ toa ∧ toa ≤ y + virtualSlotDuration := by
  obtain ⟨h_before, h_after⟩ := abs_le.1 h_apart
  obtain ⟨h_early, h_late⟩ := abs_le.1 h_toa
  have h_L : (deltaSyncSlotStartToSyncSlotXmit p : ℚ) + sendLatency p = halfSlotDuration := by
    have h_le := sendLatency_le p
    have h_nat : deltaSyncSlotStartToSyncSlotXmit p + sendLatency p = halfSlotDuration := by
      rw [deltaSyncSlotStartToSyncSlotXmit_eq, halfSlotDuration_eq]
      omega
    exact_mod_cast h_nat
  have h_whole : (virtualSlotDuration : ℚ) = 2 * halfSlotDuration := by norm_num
  have h_within : ρ * deltaSyncSlotStartToSyncSlotXmit p ≤ ρ * virtualSlotDuration := by
    refine mul_le_mul_of_nonneg_left ?_ A.rate_nonneg
    have h_xmit : deltaSyncSlotStartToSyncSlotXmit p ≤ virtualSlotDuration := by
      rw [deltaSyncSlotStartToSyncSlotXmit_eq, virtualSlotDuration_eq]
      omega
    exact_mod_cast h_xmit
  have h_sent := A.time_add_le x (deltaSyncSlotStartToSyncSlotXmit p)
  have h_sent' := A.le_time_add x (deltaSyncSlotStartToSyncSlotXmit p)
  have h_end := B.le_time_add y virtualSlotDuration
  have h_gain : 0 ≤ ρ * virtualSlotDuration :=
    mul_nonneg A.rate_nonneg (Nat.cast_nonneg _)
  exact ⟨(B.time_le_iff h_ρ).1 (by linarith), (B.time_le_iff h_ρ).1 (by linarith)⟩

/-- A clique stays in sync without a message for as long as its clocks allow.  A unit
    that adopts a message is off by at most twice the drift in each tick since then
    from the sync points of the sender, while neither is disturbed, for any number of
    periods.  As long as that is less than half a slot, what the sender sends in its
    sync slot arrives in the sync slot of the unit. -/
theorem undisturbed_units_meet (h_ρ : ρ < 1) (h_s : (protocolSystem cS).Reachable s)
    (h_msg : s.sendMasterSync cS eS = .ok msg ∨ ∃ work, s.sendWorkSync cS eS work = .ok msg)
    (h_slot : s.schedule.startTimeOfSyncPeriod ≤ eS.now)
    (h_left : eS.now + sendLatency cS.platform ≤ s.schedule.timeOfNextSyncPoint)
    (h_toa : |B.time eR.timeOfArrival - (A.time eS.now + sendLatency cS.platform)| ≤ jitter)
    (h_adopts : ev.Adopts r msg) (h_step : stepProtocol cR r eR ev = .ok r') :
    ∃ b ≤ 1, ∀ n s'' r'', UndisturbedFor cR n r' r'' → UndisturbedFor cS (n + b) s s'' →
      |B.time r''.schedule.timeOfNextSyncPoint - A.time s''.schedule.timeOfNextSyncPoint| ≤
          jitter + ρ * sendLatency cS.platform +
            2 * (ρ * ((n + 2) * normalSyncPeriodDuration)) ∧
        (2 * jitter + ρ * (sendLatency cS.platform + 2 * ((n + 2) * normalSyncPeriodDuration) +
            2 * virtualSlotDuration) ≤ halfSlotDuration →
          ∀ toa, |B.time toa - (A.time (s''.schedule.timeOfNextSyncPoint +
              deltaSyncSlotStartToSyncSlotXmit cS.platform) + sendLatency cS.platform)| ≤ jitter →
            r''.schedule.timeOfNextSyncPoint ≤ toa ∧
              toa ≤ r''.schedule.timeOfNextSyncPoint + virtualSlotDuration) := by
  obtain ⟨b, h_b, h_both⟩ := ticks_of_undisturbed h_s h_msg h_slot h_left h_adopts h_step
  refine ⟨b, h_b, fun n s'' r'' h_r'' h_s'' => ?_⟩
  obtain ⟨ticks, h_receiver, h_sender, -, h_ticks⟩ := h_both n s'' r'' h_r'' h_s''
  have h_arrival : |B.time eR.timeOfArrival - A.time (eS.now + sendLatency cS.platform)| ≤
      jitter + ρ * sendLatency cS.platform := by
    obtain ⟨h_early, h_late⟩ := abs_le.1 h_toa
    have h_sent := A.time_add_le eS.now (sendLatency cS.platform)
    have h_sent' := A.le_time_add eS.now (sendLatency cS.platform)
    exact abs_le.2 ⟨by linarith, by linarith⟩
  have h_apart := B.apart_add A ticks h_arrival
  have h_few : ρ * ticks ≤ ρ * ((n + 2) * normalSyncPeriodDuration) := by
    refine mul_le_mul_of_nonneg_left ?_ A.rate_nonneg
    exact_mod_cast h_ticks
  have h_bound : |B.time r''.schedule.timeOfNextSyncPoint -
      A.time s''.schedule.timeOfNextSyncPoint| ≤
        jitter + ρ * sendLatency cS.platform +
          2 * (ρ * ((n + 2) * normalSyncPeriodDuration)) := by
    rw [h_receiver, h_sender]
    linarith
  refine ⟨h_bound, fun h_small toa h_sent => ?_⟩
  refine arrives_in_slot h_ρ h_bound ?_ h_sent
  linarith

/-- And no longer, if the ticks of the sender are short by `ρ` and those of the receiver
    are long by as much: from the period on in which that comes to half a slot, what
    the sender sends in its sync slot arrives before the slot of the unit. -/
theorem opposite_units_part {x y : ℕ} (h_short : |-ρ| ≤ ρ) (h_long : |ρ| ≤ ρ) (h_ρ : ρ < 1)
    (h_s : (protocolSystem cS).Reachable s)
    (h_msg : s.sendMasterSync cS eS = .ok msg ∨ ∃ work, s.sendWorkSync cS eS work = .ok msg)
    (h_slot : s.schedule.startTimeOfSyncPeriod ≤ eS.now)
    (h_left : eS.now + sendLatency cS.platform ≤ s.schedule.timeOfNextSyncPoint)
    (h_A : A = .steady ρ x (-ρ) h_short) (h_B : B = .steady ρ y ρ h_long)
    (h_toa : |B.time eR.timeOfArrival - (A.time eS.now + sendLatency cS.platform)| ≤ jitter)
    (h_adopts : ev.Adopts r msg) (h_step : stepProtocol cR r eR ev = .ok r') :
    ∃ b ≤ 1, ∀ n s'' r'', UndisturbedFor cR n r' r'' → UndisturbedFor cS (n + b) s s'' →
      halfSlotDuration + 2 * jitter < 2 * (ρ * (n * normalSyncPeriodDuration)) →
        ∀ toa, |B.time toa - (A.time (s''.schedule.timeOfNextSyncPoint +
            deltaSyncSlotStartToSyncSlotXmit cS.platform) + sendLatency cS.platform)| ≤ jitter →
          toa < r''.schedule.timeOfNextSyncPoint := by
  obtain ⟨b, h_b, h_both⟩ := ticks_of_undisturbed h_s h_msg h_slot h_left h_adopts h_step
  refine ⟨b, h_b, fun n s'' r'' h_r'' h_s'' h_far toa h_sent => ?_⟩
  obtain ⟨ticks, h_receiver, h_sender, h_ticks, -⟩ := h_both n s'' r'' h_r'' h_s''
  have h_ρ_nonneg : 0 ≤ ρ := A.rate_nonneg
  have h_slots : ρ * (n * normalSyncPeriodDuration) ≤ ρ * ticks := by
    refine mul_le_mul_of_nonneg_left ?_ h_ρ_nonneg
    exact_mod_cast h_ticks
  -- the ticks of the sender from its message on, those in its slot among them
  have h_sender_time : A.time (s''.schedule.timeOfNextSyncPoint +
      deltaSyncSlotStartToSyncSlotXmit cS.platform) =
        A.time eS.now + (1 + -ρ) * (halfSlotDuration + ticks) := by
    have h_total : s''.schedule.timeOfNextSyncPoint +
        deltaSyncSlotStartToSyncSlotXmit cS.platform = eS.now + (halfSlotDuration + ticks) := by
      have h_le := sendLatency_le cS.platform
      rw [h_sender, deltaSyncSlotStartToSyncSlotXmit_eq, halfSlotDuration_eq]
      omega
    rw [h_total, h_A, DriftingClock.steady_add, Nat.cast_add]
  have h_receiver_time : B.time r''.schedule.timeOfNextSyncPoint =
      B.time eR.timeOfArrival + (1 + ρ) * ticks := by
    rw [h_receiver, h_B, DriftingClock.steady_add]
  obtain ⟨h_early, -⟩ := abs_le.1 h_toa
  obtain ⟨-, h_late⟩ := abs_le.1 h_sent
  have h_half : 0 ≤ ρ * halfSlotDuration := mul_nonneg h_ρ_nonneg (Nat.cast_nonneg _)
  rw [h_sender_time] at h_late
  refine Nat.lt_of_not_le fun h_le => ?_
  have h_reached := (B.time_le_iff h_ρ).2 h_le
  rw [h_receiver_time] at h_reached
  linarith

-- ============================================================================
-- Units five and three
-- ============================================================================

/-- Crystals of 20 parts in a million: the ticks of unit five are long by as much. -/
def clockOfFive : DriftingClock ℚ (1 / 50000) := .steady (1 / 50000) 1000 (1 / 50000) (by norm_num)

def clockOfThree : DriftingClock ℚ (1 / 50000) := .steady (1 / 50000) 0 (-(1 / 50000)) (by norm_num)

theorem firstMasterSync_adopted :
    (ProtocolEvent.hearInSyncSlot firstMasterSync).Adopts
        (Protocol.boot unitFive 1000 1000).preludeToSyncPeriod firstMasterSync ∧
      ∃ r', stepProtocol unitFive (Protocol.boot unitFive 1000 1000).preludeToSyncPeriod
        (arriving 1010) (.hearInSyncSlot firstMasterSync) = .ok r' := by
  have h_adopts : (Protocol.boot unitFive 1000 1000).preludeToSyncPeriod.adoptsInSyncSlot
      firstMasterSync = true := by decide
  have h_timely : (ProtocolEvent.hearInSyncSlot firstMasterSync).Timely
      (Protocol.boot unitFive 1000 1000).preludeToSyncPeriod (arriving 1010) := by decide
  exact ⟨Or.inl ⟨rfl, h_adopts⟩, (hearInSyncSlot_ok_iff
    (System.Reachable.start ⟨1000, 1000, rfl⟩) h_timely h_adopts).2 (by decide)⟩

theorem firstMasterSync_arrives :
    |clockOfFive.time (arriving 1010).timeOfArrival -
      (clockOfThree.time (Env.quiet 0).now + sendLatency unitThree.platform)| ≤ 1 := by
  have h_latency : sendLatency unitThree.platform = 10 := rfl
  rw [h_latency]
  norm_num [clockOfFive, clockOfThree, DriftingClock.steady, arriving, Env.quiet, abs_le]

/-- They meet for five periods without a message. -/
theorem undisturbed_units_meet_fivePeriods :
    ∃ r', stepProtocol unitFive (Protocol.boot unitFive 1000 1000).preludeToSyncPeriod
        (arriving 1010) (.hearInSyncSlot firstMasterSync) = .ok r' ∧
      ∃ b ≤ 1, ∀ n ≤ 5, ∀ s'' r'', UndisturbedFor unitFive n r' r'' →
        UndisturbedFor unitThree (n + b) (Protocol.boot unitThree 0 0).preludeToSyncPeriod s'' →
        ∀ toa, |clockOfFive.time toa - (clockOfThree.time (s''.schedule.timeOfNextSyncPoint +
            deltaSyncSlotStartToSyncSlotXmit unitThree.platform) +
              sendLatency unitThree.platform)| ≤ 1 →
          r''.schedule.timeOfNextSyncPoint ≤ toa ∧
            toa ≤ r''.schedule.timeOfNextSyncPoint + virtualSlotDuration := by
  obtain ⟨h_adopts, r', h_step⟩ := firstMasterSync_adopted
  have h_s : (protocolSystem unitThree).Reachable
      (Protocol.boot unitThree 0 0).preludeToSyncPeriod := System.Reachable.start ⟨0, 0, rfl⟩
  obtain ⟨b, h_b, h_meet⟩ := undisturbed_units_meet (by norm_num) h_s (Or.inl rfl) (by decide)
    (by decide) firstMasterSync_arrives h_adopts h_step
  refine ⟨r', h_step, b, h_b, fun n h_n s'' r'' h_r'' h_s'' toa h_sent => ?_⟩
  refine (h_meet n s'' r'' h_r'' h_s'').2 ?_ toa h_sent
  have h_latency : sendLatency unitThree.platform = 10 := rfl
  have h_few : (n : ℚ) ≤ 5 := by exact_mod_cast h_n
  rw [h_latency]
  norm_num
  linarith

/-- From the ninth period on they do not meet. -/
theorem opposite_units_part_ninthPeriod :
    ∃ r', stepProtocol unitFive (Protocol.boot unitFive 1000 1000).preludeToSyncPeriod
        (arriving 1010) (.hearInSyncSlot firstMasterSync) = .ok r' ∧
      ∃ b ≤ 1, ∀ n ≥ 9, ∀ s'' r'', UndisturbedFor unitFive n r' r'' →
        UndisturbedFor unitThree (n + b) (Protocol.boot unitThree 0 0).preludeToSyncPeriod s'' →
        ∀ toa, |clockOfFive.time toa - (clockOfThree.time (s''.schedule.timeOfNextSyncPoint +
            deltaSyncSlotStartToSyncSlotXmit unitThree.platform) +
              sendLatency unitThree.platform)| ≤ 1 →
          toa < r''.schedule.timeOfNextSyncPoint := by
  obtain ⟨h_adopts, r', h_step⟩ := firstMasterSync_adopted
  have h_s : (protocolSystem unitThree).Reachable
      (Protocol.boot unitThree 0 0).preludeToSyncPeriod := System.Reachable.start ⟨0, 0, rfl⟩
  obtain ⟨b, h_b, h_part⟩ := opposite_units_part (by norm_num) (by norm_num) (by norm_num) h_s
    (Or.inl rfl) (by decide) (by decide) rfl rfl firstMasterSync_arrives h_adopts h_step
  refine ⟨r', h_step, b, h_b, fun n h_n s'' r'' h_r'' h_s'' toa h_sent => ?_⟩
  refine h_part n s'' r'' h_r'' h_s'' ?_ toa h_sent
  have h_many : (9 : ℚ) ≤ n := by exact_mod_cast h_n
  norm_num
  linarith

end Drift

end SleepSync
