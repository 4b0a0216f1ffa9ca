/-
  SleepSync.Trolling

  Which slots trolling fishes.

  Two counters take turns: one goes up from the first sleeping slot and skips
  what is left at the end of the period, one goes down from the last slot and
  skips what is left at the beginning.  In coordinates of their own, the distance
  from where each starts, both are laps of the session duration.  Every sleeping
  slot is either in a session of the up counter or in the first session of the
  down counter's lap.

  Nothing is assumed about the durations that the counters were walked with
  before: a lap may be entered out of step.

  The order in which they are fished after a restart should begin with the two
  sessions that abut the sync slot.  The counters are set there, but a counter
  moves before its session is fished, so that these two come last of their laps.
-/

import SleepSync.Dropout
import SleepSync.Lib.Laps

namespace SleepSync

open Lib ScheduleParameters FishingParameters

namespace TrollingPolicy

/-- `SyncRecoveryTrollingPolicy::preFishing` -/
def preFishing (t : TrollingPolicy) (durationInSlots : Nat) : Except Fault TrollingPolicy :=
  t.proceedToNextFishSlotOrdinal durationInSlots

/-- So many calls, one after the other. -/
def preFishings (durationInSlots : Nat) : Nat → TrollingPolicy → Except Fault TrollingPolicy
  | 0, t => .ok t
  | n + 1, t => do
      let t' ← t.preFishing durationInSlots
      preFishings durationInSlots n t'

/-- The session that the policy has selected covers the slot. -/
def Selects (t : TrollingPolicy) (slot : Nat) : Prop :=
  t.currentStartSlotOrdinal ≤ slot ∧ slot ≤ t.currentEndSlotOrdinal

instance (t : TrollingPolicy) (slot : Nat) : Decidable (t.Selects slot) :=
  inferInstanceAs (Decidable (_ ∧ _))

end TrollingPolicy

/-- What the policy is called for, with the session duration at the time. -/
inductive TrollingCall
  | restart (durationInSlots : Nat)
  | preFishing (durationInSlots : Nat)

def TrollingCall.durationInSlots : TrollingCall → Nat
  | .restart d | .preFishing d => d

/-- The policy by any calls with any legal durations, from the state the loader
    leaves. -/
def trollingSystem : System TrollingPolicy TrollingCall Fault where
  init t := t = Fishing.initial.troll
  enabled _ l := 1 ≤ l.durationInSlots ∧
    l.durationInSlots ≤ maxTrollingRealFishSessionDurationSlots
  step t
    | .restart d => t.restart d
    | .preFishing d => t.preFishing d

-- ============================================================================
-- One call
-- ============================================================================

namespace TrollingPolicy

/-- Both counters are at sleeping slots. -/
structure Counts (t : TrollingPolicy) : Prop where
  up_ge : 2 ≤ t.upCounter
  up_le : t.upCounter ≤ 1600
  down_ge : 2 ≤ t.downCounter
  down_le : t.downCounter ≤ 1600

/-- The policy after a call. -/
def proceeded (d : Nat) (t : TrollingPolicy) : TrollingPolicy :=
  if t.direction then
    { upCounter := incrementCounterModuloSleepingSlots d t.upCounter
      downCounter := t.downCounter
      currentStartSlotOrdinal := incrementCounterModuloSleepingSlots d t.upCounter
      currentEndSlotOrdinal := incrementCounterModuloSleepingSlots d t.upCounter + d - 1
      direction := false }
  else
    { upCounter := t.upCounter
      downCounter := decrementCounterModuloSleepingSlots d t.downCounter
      currentStartSlotOrdinal := decrementCounterModuloSleepingSlots d t.downCounter
      currentEndSlotOrdinal := decrementCounterModuloSleepingSlots d t.downCounter + d - 1
      direction := true }

variable {d : Nat} {t : TrollingPolicy}

theorem increment_range (h_d : 1 ≤ d) (h_max : d ≤ 100) (x : Nat) (h_x : 2 ≤ x) :
    2 ≤ incrementCounterModuloSleepingSlots d x ∧
      incrementCounterModuloSleepingSlots d x + d ≤ 1601 := by
  unfold incrementCounterModuloSleepingSlots getInitialUpCounter
  rw [firstSlotOrdinalToFish_eq, lastSlotOrdinalShouldFish_eq]
  split <;> omega

theorem decrement_range (h_d : 1 ≤ d) (h_max : d ≤ 100) (x : Nat) (h_x : x ≤ 1600) :
    2 ≤ decrementCounterModuloSleepingSlots d x ∧
      decrementCounterModuloSleepingSlots d x + d ≤ 1601 := by
  unfold decrementCounterModuloSleepingSlots getInitialDownCounter
  rw [firstSlotOrdinalToFish_eq, lastSlotOrdinalShouldFish_eq]
  split <;> omega

/-- With a legal duration no session is out of range. -/
theorem preFishing_eq (h : t.Counts) (h_d : 1 ≤ d) (h_max : d ≤ 100) :
    t.preFishing d = .ok (t.proceeded d) := by
  obtain ⟨h_up, h_up_end⟩ := increment_range h_d h_max t.upCounter h.up_ge
  obtain ⟨h_down, h_down_end⟩ := decrement_range h_d h_max t.downCounter h.down_le
  unfold preFishing proceedToNextFishSlotOrdinal proceeded
  cases h_direction : t.direction with
  | true =>
      refine setSessionForStartSlot_eq_ok.2 ⟨⟨h_up, ?_⟩, by simp⟩
      rw [lastSlotOrdinalShouldFish_eq]
      omega
  | false =>
      refine setSessionForStartSlot_eq_ok.2 ⟨⟨h_down, ?_⟩, by simp⟩
      rw [lastSlotOrdinalShouldFish_eq]
      omega

theorem Counts.proceeded (h : t.Counts) (h_d : 1 ≤ d) (h_max : d ≤ 100) :
    (t.proceeded d).Counts := by
  obtain ⟨h_up, h_up_end⟩ := increment_range h_d h_max t.upCounter h.up_ge
  obtain ⟨h_down, h_down_end⟩ := decrement_range h_d h_max t.downCounter h.down_le
  unfold TrollingPolicy.proceeded
  split
  · exact ⟨h_up, by dsimp only; omega, h.down_ge, h.down_le⟩
  · exact ⟨h.up_ge, h.up_le, h_down, by dsimp only; omega⟩

/-- Every call completes. -/
theorem preFishings_eq (h_d : 1 ≤ d) (h_max : d ≤ 100) (n : Nat) :
    ∀ {t : TrollingPolicy}, t.Counts → preFishings d n t = .ok ((proceeded d)^[n] t) := by
  induction n with
  | zero => exact fun _ => rfl
  | succ n ih =>
      intro t h
      have h_first : preFishings d (n + 1) t = preFishings d n (t.proceeded d) :=
        congrArg (· >>= preFishings d n) (preFishing_eq h h_d h_max)
      rw [h_first, ih (h.proceeded h_d h_max), Function.iterate_succ_apply]

end TrollingPolicy

-- ============================================================================
-- The counters walk in laps
-- ============================================================================

namespace TrollingPolicy

variable {d n m : Nat} {t : TrollingPolicy}

/-- The up counter's distance from the first sleeping slot. -/
theorem increment_eq (d y : Nat) :
    incrementCounterModuloSleepingSlots d (2 + y) = 2 + lap 1598 d y := by
  unfold incrementCounterModuloSleepingSlots getInitialUpCounter lap
  rw [firstSlotOrdinalToFish_eq, lastSlotOrdinalShouldFish_eq]
  split <;> split <;> omega

/-- The down counter's distance from its first session. -/
theorem decrement_eq (h_max : d ≤ 100) {x y : Nat} (h_x : x + d + y = 1601) :
    decrementCounterModuloSleepingSlots d x + d + lap 1599 d y = 1601 := by
  unfold decrementCounterModuloSleepingSlots getInitialDownCounter lap
  rw [firstSlotOrdinalToFish_eq, lastSlotOrdinalShouldFish_eq]
  split <;> split <;> omega

theorem iterate_increment (d n y : Nat) :
    (incrementCounterModuloSleepingSlots d)^[n] (2 + y) = 2 + (lap 1598 d)^[n] y := by
  induction n with
  | zero => rfl
  | succ n ih =>
      rw [Function.iterate_succ_apply', ih, increment_eq, Function.iterate_succ_apply']

theorem iterate_decrement (h_max : d ≤ 100) (n : Nat) {x y : Nat} (h_x : x + d + y = 1601) :
    (decrementCounterModuloSleepingSlots d)^[n] x + d + (lap 1599 d)^[n] y = 1601 := by
  induction n with
  | zero => exact h_x
  | succ n ih =>
      rw [Function.iterate_succ_apply', Function.iterate_succ_apply']
      exact decrement_eq h_max ih

/-- Two calls move either counter once. -/
theorem proceeded_twice (d : Nat) (t : TrollingPolicy) :
    ((t.proceeded d).proceeded d).upCounter =
        incrementCounterModuloSleepingSlots d t.upCounter ∧
      ((t.proceeded d).proceeded d).downCounter =
        decrementCounterModuloSleepingSlots d t.downCounter ∧
      ((t.proceeded d).proceeded d).direction = t.direction := by
  unfold proceeded
  cases t.direction <;> simp

theorem iterate_twice (d : Nat) (t : TrollingPolicy) (n : Nat) :
    ((proceeded d)^[2 * n] t).upCounter =
        (incrementCounterModuloSleepingSlots d)^[n] t.upCounter ∧
      ((proceeded d)^[2 * n] t).downCounter =
        (decrementCounterModuloSleepingSlots d)^[n] t.downCounter ∧
      ((proceeded d)^[2 * n] t).direction = t.direction := by
  induction n with
  | zero => exact ⟨rfl, rfl, rfl⟩
  | succ n ih =>
      obtain ⟨ih_up, ih_down, ih_direction⟩ := ih
      have h_two : (proceeded d)^[2 * (n + 1)] t =
          (((proceeded d)^[2 * n] t).proceeded d).proceeded d := by
        rw [Nat.mul_succ, Function.iterate_succ_apply', Function.iterate_succ_apply']
      obtain ⟨h_up, h_down, h_direction⟩ := proceeded_twice d ((proceeded d)^[2 * n] t)
      rw [h_two, h_up, h_down, h_direction, ih_up, ih_down, ih_direction,
        Function.iterate_succ_apply', Function.iterate_succ_apply']
      exact ⟨rfl, rfl, rfl⟩

/-- The session selected is the one of so many slots from slot `x` on. -/
def IsAt (t : TrollingPolicy) (d x : Nat) : Prop :=
  t.currentStartSlotOrdinal = x ∧ t.currentEndSlotOrdinal = x + d - 1

/-- The counter whose turn it is selects the session. -/
theorem proceeded_isAt (d : Nat) (t : TrollingPolicy) :
    (t.proceeded d).IsAt d
      (if t.direction then incrementCounterModuloSleepingSlots d t.upCounter
        else decrementCounterModuloSleepingSlots d t.downCounter) := by
  unfold proceeded IsAt
  cases t.direction <;> simp

/-- A call turns to the other counter, and leaves it where it is. -/
theorem proceeded_turn (d : Nat) (t : TrollingPolicy) :
    (t.proceeded d).direction = !t.direction ∧
      (t.direction = false → (t.proceeded d).upCounter = t.upCounter) ∧
      (t.direction = true → (t.proceeded d).downCounter = t.downCounter) := by
  unfold proceeded
  cases t.direction <;> simp

/-- The session a counter selects with its move after `n` of its moves, whichever
    counter's turn is first. -/
theorem exists_isAt (d : Nat) (t : TrollingPolicy) (up : Bool) (n : Nat) :
    ∃ i, 0 < i ∧ i ≤ 2 * (n + 1) ∧ ((proceeded d)^[i] t).IsAt d
      (if up then (incrementCounterModuloSleepingSlots d)^[n + 1] t.upCounter
        else (decrementCounterModuloSleepingSlots d)^[n + 1] t.downCounter) := by
  obtain ⟨h_up, h_down, h_direction⟩ := iterate_twice d t n
  rw [Function.iterate_succ_apply', Function.iterate_succ_apply', ← h_up, ← h_down]
  by_cases h_turn : t.direction = up
  · refine ⟨2 * n + 1, by omega, by omega, ?_⟩
    have h_at := proceeded_isAt d ((proceeded d)^[2 * n] t)
    rw [h_direction, h_turn] at h_at
    rw [Function.iterate_succ_apply']
    exact h_at
  · -- the other counter moves in between
    refine ⟨2 * n + 2, by omega, by omega, ?_⟩
    have h_other : ((proceeded d)^[2 * n] t).direction = !up := by
      rw [h_direction]
      cases up <;> simpa using h_turn
    obtain ⟨h_next, h_up_kept, h_down_kept⟩ := proceeded_turn d ((proceeded d)^[2 * n] t)
    have h_at := proceeded_isAt d (((proceeded d)^[2 * n] t).proceeded d)
    rw [h_next, h_other, Bool.not_not] at h_at
    rw [Function.iterate_succ_apply', Function.iterate_succ_apply']
    cases up with
    | true =>
        rw [h_up_kept h_other] at h_at
        exact h_at
    | false =>
        rw [h_down_kept h_other] at h_at
        exact h_at

-- ============================================================================
-- Every sleeping slot
-- ============================================================================

theorem IsAt.selects {x slot : Nat} (h : t.IsAt d x) (h_lo : x ≤ slot) (h_hi : slot < x + d) :
    t.Selects slot := by
  obtain ⟨h_start, h_end⟩ := h
  unfold Selects
  omega

/-- A slot of a session that the up counter's lap has room for. -/
theorem up_selects (h : t.Counts) (h_d : 1 ≤ d) {k slot : Nat} (h_k : k * d + d ≤ 1598)
    (h_lo : 2 + k * d ≤ slot) (h_hi : slot < 2 + k * d + d) :
    ∃ i, 0 < i ∧ i ≤ 3200 ∧ ((proceeded d)^[i] t).Selects slot := by
  obtain ⟨n, h_pos, h_n, h_lap⟩ := Laps.visits h_d h_k (t.upCounter - 2)
  obtain ⟨n, rfl⟩ : ∃ m, n = m + 1 := ⟨n - 1, by omega⟩
  obtain ⟨i, h_i, h_le, h_at⟩ := exists_isAt d t true n
  refine ⟨i, h_i, by omega, h_at.selects ?_ ?_⟩ <;>
  · have h_counter : t.upCounter = 2 + (t.upCounter - 2) := by
      have h_ge := h.up_ge
      omega
    rw [h_counter, if_pos rfl, iterate_increment, h_lap]
    assumption

/-- A slot of the first session of the down counter's lap. -/
theorem down_selects (h : t.Counts) (h_d : 1 ≤ d) (h_max : d ≤ 100) {slot : Nat}
    (h_lo : 1601 ≤ slot + d) (h_hi : slot ≤ 1600) :
    ∃ i, 0 < i ∧ i ≤ 3200 ∧ ((proceeded d)^[i] t).Selects slot := by
  -- with the first move the counter's session is in range, whatever the duration was
  obtain ⟨-, h_end⟩ := decrement_range h_d h_max t.downCounter h.down_le
  obtain ⟨y, h_y⟩ : ∃ y, decrementCounterModuloSleepingSlots d t.downCounter + d + y = 1601 :=
    ⟨1601 - (decrementCounterModuloSleepingSlots d t.downCounter + d), by omega⟩
  have h_fits : 0 * d + d ≤ 1599 := by omega
  obtain ⟨n, -, h_n, h_lap⟩ := Laps.visits h_d h_fits y
  obtain ⟨i, h_i, h_le, h_at⟩ := exists_isAt d t false n
  have h_first := iterate_decrement h_max n h_y
  rw [h_lap] at h_first
  rw [if_neg Bool.false_ne_true, Function.iterate_succ_apply] at h_at
  exact ⟨i, h_i, by omega, h_at.selects (by omega) (by omega)⟩

theorem selects_every_slot (h : t.Counts) (h_d : 1 ≤ d) (h_max : d ≤ 100) {slot : Nat}
    (h_first : 2 ≤ slot) (h_last : slot ≤ 1600) :
    ∃ i, 0 < i ∧ i ≤ 3200 ∧ ((proceeded d)^[i] t).Selects slot := by
  have h_div : (slot - 2) / d * d + (slot - 2) % d = slot - 2 := by
    rw [Nat.mul_comm]
    exact Nat.div_add_mod _ _
  have h_mod : (slot - 2) % d < d := Nat.mod_lt _ h_d
  by_cases h_up : (slot - 2) / d * d + d ≤ 1598
  · exact up_selects h h_d h_up (by omega) (by omega)
  · exact down_selects h h_d h_max (by omega) h_last

end TrollingPolicy

-- ============================================================================
-- Runs
-- ============================================================================

theorem TrollingPolicy.counts_initial : Fishing.initial.troll.Counts :=
  ⟨by decide, by decide, by decide, by decide⟩

/-- A restart puts both counters at the beginning of a lap. -/
theorem TrollingPolicy.restart_counts {t t' : TrollingPolicy} {d : Nat} (h_d : 1 ≤ d)
    (h_max : d ≤ 100) (h : t.restart d = .ok t') : t'.Counts := by
  obtain ⟨t₁, h_set, rfl⟩ := bind_return_eq_ok.1 h
  obtain ⟨-, rfl⟩ := setSessionForStartSlot_eq_ok.1 h_set
  have h_down : getInitialDownCounter d = 1601 - d := by
    unfold getInitialDownCounter
    rw [lastSlotOrdinalShouldFish_eq]
    omega
  have h_up : getInitialUpCounter = 2 := rfl
  refine ⟨?_, ?_, ?_, ?_⟩ <;> dsimp only <;> omega

theorem trollingSystem_counts {t : TrollingPolicy} (h : trollingSystem.Reachable t) :
    t.Counts := by
  refine h.invariant TrollingPolicy.Counts ?_ ?_
  · rintro t rfl
    exact TrollingPolicy.counts_initial
  · rintro t l t' h_t ⟨h_d, h_max⟩ h_step
    cases l with
    | restart d => exact TrollingPolicy.restart_counts h_d h_max h_step
    | preFishing d =>
        have h_next := TrollingPolicy.preFishing_eq (d := d) h_t h_d h_max
        obtain rfl : t.proceeded d = t' := Except.ok.inj (h_next.symm.trans h_step)
        exact h_t.proceeded h_d h_max

-- ============================================================================
-- The policy of a unit
-- ============================================================================

/-- The policy is one that calls lead to, and the session duration one that it may
    be called with. -/
structure Fishing.Trolls (f : Fishing) : Prop where
  reachable : trollingSystem.Reachable f.troll
  agrees : f.SessionAgrees
  bounded : f.SessionBounded

section Units

variable {c : Config} {e : Env} {f f' : Fishing} {p p' : Protocol} {ev : ProtocolEvent}

theorem Fishing.restartTrollingMode_reachable (h : f.restartTrollingMode = .ok f')
    (h_f : f.Trolls) : trollingSystem.Reachable f'.troll := by
  obtain ⟨t, h_t, rfl⟩ := Fishing.restartTrollingMode_eq_ok.1 h
  exact h_f.reachable.next (l := .restart f.session.durationInSlots)
    ⟨h_f.agrees.2, h_f.bounded⟩ h_t

theorem Fishing.preFishing_reachable (h : f.preFishing = .ok f') (h_f : f.Trolls) :
    trollingSystem.Reachable f'.troll := by
  unfold Fishing.preFishing at h
  split at h
  · obtain ⟨t, h_t, rfl⟩ := bind_return_eq_ok.1 h
    exact h_f.reachable.next (l := .preFishing f.session.durationInSlots)
      ⟨h_f.agrees.2, h_f.bounded⟩ h_t
  · cases h
    exact h_f.reachable

/-- The power manager restarts the policy with the duration it has raised. -/
theorem Fishing.manage_reachable {vcc : Bool} (h : f.manage vcc = .ok f') (h_f : f.Trolls) :
    trollingSystem.Reachable f'.troll := by
  unfold Fishing.manage at h
  split at h
  · split at h
    · cases h
      exact h_f.reachable
    · obtain ⟨f₁, h_incr, rfl⟩ := bind_return_eq_ok.1 h
      unfold Fishing.incrementFishSessionDuration at h_incr
      dsimp only at h_incr
      split at h_incr
      · cases h_incr
        exact h_f.reachable
      · rename_i h_fits
        have h_pos : 1 ≤ f.session.durationInSlots + 20 := Nat.le_add_left 1 _
        have h_longer : Fishing.Trolls { f with session :=
            { durationInSlots := f.session.durationInSlots + 20
              durationInTicks := (f.session.durationInSlots + 20) *
                minTrollingFishSessionDurationTicks } } :=
          ⟨h_f.reachable, ⟨rfl, h_pos⟩, Nat.le_of_not_lt h_fits⟩
        have h_raised := Fishing.restartTrollingMode_reachable h_incr h_longer
        exact h_raised
  · cases h
    exact h_f.reachable

theorem stepProtocol_troll (h : stepProtocol c p e ev = .ok p') (h_p : p.fishing.Trolls) :
    trollingSystem.Reachable p'.fishing.troll := by
  have h_restart : ∀ {f : Fishing}, p.fishing.restartTrollingMode = .ok f →
      trollingSystem.Reachable f.troll :=
    fun h_f => Fishing.restartTrollingMode_reachable h_f h_p
  cases stepProtocol_done h with
  | heard h_heard =>
      cases h_heard with
      | scattered _ _ _ h_f => exact h_restart h_f
      | enticed =>
          show trollingSystem.Reachable (p.fishing.switchToDeepFishing _ _).troll
          unfold Fishing.switchToDeepFishing
          split <;> exact h_p.reachable
      | _ => exact h_p.reachable
  | fished h_fished => cases h_fished <;> exact h_p.reachable
  | scattered _ h_f => exact h_restart h_f
  | listened h_ended =>
      cases h_ended with
      | asMaster => exact h_p.reachable
      | missed => exact h_p.reachable
      | grabbed _ _ _ _ h_f => exact h_restart h_f
      | reverted _ _ _ _ _ h_f => exact h_restart h_f
  | preFished h_f => exact Fishing.preFishing_reachable h_f h_p
  | startsFishing =>
      obtain ⟨-, -, -, h_troll, -⟩ := Protocol.setStartAndEndTimes_eq p
      rw [h_troll]
      exact h_p.reachable
  | checked h_checked => cases h_checked <;> exact h_p.reachable
  | booked h_book =>
      obtain ⟨f, h_f, h_eq⟩ := Protocol.bookkeepingAtPreludeToSyncSlot_eq_ok h_book
      have h_fishing := congrArg Protocol.fishing h_eq
      dsimp only at h_fishing
      rw [h_fishing]
      exact Fishing.manage_reachable h_f h_p
  | _ => exact h_p.reachable

theorem protocolSystem_trolls (h : (protocolSystem c).Reachable p) : p.fishing.Trolls := by
  refine h.invariant (fun p => p.fishing.Trolls) ?_ ?_
  · rintro p ⟨initTime, loopTime, rfl⟩
    have h_bounded : Fishing.initial.SessionBounded := by
      show 1 ≤ maxTrollingRealFishSessionDurationSlots
      decide
    exact ⟨System.Reachable.start rfl, ⟨rfl, Nat.le_refl 1⟩, h_bounded⟩
  · intro p l p' h_p _ h_step
    exact ⟨stepProtocol_troll h_step h_p, Protocol.stepProtocol_sessionAgrees h_step h_p.agrees,
      stepProtocol_sessionBounded h_step h_p.bounded⟩

/-- No unit stops at the assertion about the range of a trolling session where it
    chooses the next one. -/
theorem protocolSystem_preFishing (h : (protocolSystem c).Reachable p) :
    ∃ f, p.fishing.preFishing = .ok f := by
  have h_p := protocolSystem_trolls h
  have h_counts := trollingSystem_counts h_p.reachable
  unfold Fishing.preFishing
  cases p.fishing.mode with
  | trolling =>
      have h_next := TrollingPolicy.preFishing_eq h_counts h_p.agrees.2 h_p.bounded
      exact ⟨_, bind_return_eq_ok.2 ⟨_, h_next, rfl⟩⟩
  | deepFishing => exact ⟨p.fishing, rfl⟩

end Units

-- ============================================================================
-- Coverage
-- ============================================================================

/-- From any state of the policy, whatever the durations were before: with the
    session duration held, each sleeping slot is in the session of one of the
    next `2 * countSlots` calls. -/
theorem trolling_covers_sleeping_slots {t : TrollingPolicy} (h : trollingSystem.Reachable t)
    {d slot : Nat} (h_d : 1 ≤ d) (h_max : d ≤ maxTrollingRealFishSessionDurationSlots)
    (h_first : firstSlotOrdinalToFish ≤ slot) (h_last : slot ≤ lastSlotOrdinalShouldFish) :
    ∃ i, 0 < i ∧ i ≤ 2 * countSlots ∧
      ∃ t', TrollingPolicy.preFishings d i t = .ok t' ∧ t'.Selects slot := by
  have h_counts := trollingSystem_counts h
  obtain ⟨i, h_i, h_le, h_selects⟩ :=
    TrollingPolicy.selects_every_slot h_counts h_d h_max h_first h_last
  exact ⟨i, h_i, h_le, _, TrollingPolicy.preFishings_eq h_d h_max i h_counts, h_selects⟩

/-- Sessions of seven slots from the start of the program on: the last sleeping
    slot is in one, which the up counter skips. -/
theorem trolling_covers_sleeping_slots_lastOfSeven :
    ∃ i, 0 < i ∧ i ≤ 2 * countSlots ∧
      ∃ t', TrollingPolicy.preFishings 7 i Fishing.initial.troll = .ok t' ∧ t'.Selects 1600 :=
  trolling_covers_sleeping_slots (System.Reachable.start rfl) (by decide) (by decide) (by decide)
    (by decide)

-- ============================================================================
-- The order after a restart
-- ============================================================================

namespace TrollingPolicy

/-- The counter whose turn it is starts its lap again. -/
def wraps (d : Nat) (t : TrollingPolicy) : Bool :=
  if t.direction then lastSlotOrdinalShouldFish < t.upCounter + d + d
  else t.downCounter < firstSlotOrdinalToFish + d

/-- None of the next `n` calls does. -/
def Unwrapped (d n : Nat) (t : TrollingPolicy) : Prop :=
  ∀ i < n, ∀ t', preFishings d i t = .ok t' → t'.wraps d = false

/-- The sessions of the calls `2 * k - 1` and `2 * k`: where the one starts, and where
    the other ends. -/
def Fishes (d k start last : Nat) (t : TrollingPolicy) : Prop :=
  (∃ t', preFishings d (2 * k - 1) t = .ok t' ∧ t'.currentStartSlotOrdinal = start) ∧
    ∃ t', preFishings d (2 * k) t = .ok t' ∧ t'.currentEndSlotOrdinal = last

/-- The order that is documented, outward from the sync slot: 2, 8, 3, 7, 4, 6, ... -/
def FansOutward (d k : Nat) (t : TrollingPolicy) : Prop :=
  t.Fishes d k (firstSlotOrdinalToFish + (k - 1) * d) (lastSlotOrdinalShouldFish - (k - 1) * d)

section Order

variable {d n : Nat} {t t' : TrollingPolicy}

/-- The first two sessions abut the sync slot, on either side. -/
theorem restart_starts (h_d : 1 ≤ d) (h_max : d ≤ 100) (t : TrollingPolicy) :
    ∃ t', t.restart d = .ok t' ∧ t'.upCounter = 2 ∧ t'.downCounter + d = 1601 ∧
      t'.direction = true := by
  have h_range : firstSlotOrdinalToFish ≤ getInitialUpCounter ∧
      getInitialUpCounter + d - 1 ≤ lastSlotOrdinalShouldFish := by
    rw [getInitialUpCounter, firstSlotOrdinalToFish_eq, lastSlotOrdinalShouldFish_eq]
    omega
  refine ⟨_, bind_return_eq_ok.2 ⟨_, setSessionForStartSlot_eq_ok.2 ⟨h_range, rfl⟩, rfl⟩, rfl,
    ?_, rfl⟩
  show getInitialDownCounter d + d = 1601
  unfold getInitialDownCounter
  rw [lastSlotOrdinalShouldFish_eq]
  omega

theorem increment_eq_of_not_wraps {x : Nat}
    (h : ¬ lastSlotOrdinalShouldFish < x + d + d) :
    incrementCounterModuloSleepingSlots d x = x + d :=
  if_neg h

theorem decrement_eq_of_not_wraps {x : Nat} (h : ¬ x < firstSlotOrdinalToFish + d) :
    decrementCounterModuloSleepingSlots d x = x - d :=
  if_neg h

/-- The counters after `n` turns of each. -/
structure Walked (d n : Nat) (t : TrollingPolicy) : Prop where
  up : t.upCounter = 2 + n * d
  down : t.downCounter + d + n * d = 1601
  direction : t.direction = true

/-- A turn of the up counter, and then one of the down counter. -/
theorem Walked.proceeded (h : t.Walked d n) (h_up : t.wraps d = false)
    (h_down : (t.proceeded d).wraps d = false) :
    (t.proceeded d).currentStartSlotOrdinal = 2 + (n + 1) * d ∧
      ((t.proceeded d).proceeded d).currentEndSlotOrdinal + (n + 1) * d = 1600 ∧
      ((t.proceeded d).proceeded d).Walked d (n + 1) := by
  have h_next : (n + 1) * d = n * d + d := Nat.succ_mul n d
  -- the up counter
  obtain ⟨h_turn, -, h_kept⟩ := proceeded_turn d t
  have h_at := proceeded_isAt d t
  unfold wraps at h_up
  rw [h.direction] at h_turn h_at h_up
  rw [if_pos rfl] at h_at h_up
  have h_increment := increment_eq_of_not_wraps (of_decide_eq_false h_up)
  -- the down counter
  obtain ⟨h_turn', h_kept', -⟩ := proceeded_turn d (t.proceeded d)
  have h_at' := proceeded_isAt d (t.proceeded d)
  unfold wraps at h_down
  rw [h_turn, Bool.not_true] at h_turn' h_at' h_down
  rw [if_neg Bool.false_ne_true] at h_at' h_down
  rw [h_kept h.direction] at h_at' h_down
  have h_decrement := decrement_eq_of_not_wraps (of_decide_eq_false h_down)
  obtain ⟨h_up_twice, h_down_twice, h_direction⟩ := proceeded_twice d t
  have h_u := h.up
  have h_w := h.down
  rw [firstSlotOrdinalToFish_eq] at h_down
  have h_ge := of_decide_eq_false h_down
  refine ⟨?_, ?_, ?_, ?_, ?_⟩
  · rw [h_at.1, h_increment]
    omega
  · rw [h_at'.2, h_decrement]
    omega
  · rw [h_up_twice, h_increment]
    omega
  · rw [h_down_twice, h_decrement]
    omega
  · rw [h_direction]
    exact h.direction

theorem iterate_walked (h : t.Walked d 0)
    (h_calls : ∀ i, preFishings d i t = .ok ((TrollingPolicy.proceeded d)^[i] t)) :
    ∀ n, t.Unwrapped d (2 * n) → ((TrollingPolicy.proceeded d)^[2 * n] t).Walked d n := by
  intro n
  induction n with
  | zero => exact fun _ => h
  | succ n ih =>
      intro h_unwrapped
      have h_n := ih fun i h_i => h_unwrapped i (by omega)
      have h_up := h_unwrapped (2 * n) (by omega) _ (h_calls _)
      have h_down := h_unwrapped (2 * n + 1) (by omega) _ (h_calls _)
      rw [Function.iterate_succ_apply'] at h_down
      rw [Nat.mul_succ, Function.iterate_succ_apply', Function.iterate_succ_apply']
      exact (h_n.proceeded h_up h_down).2.2

theorem Fishes.start_unique {k x y x' y' : Nat} (h : t.Fishes d k x y)
    (h' : t.Fishes d k x' y') : x = x' := by
  obtain ⟨⟨t₁, h_t₁, h_x⟩, -⟩ := h
  obtain ⟨⟨t₂, h_t₂, h_x'⟩, -⟩ := h'
  cases h_t₁.symm.trans h_t₂
  exact h_x.symm.trans h_x'

/-- Trolling advances before it fishes: while no counter has wrapped, every session is
    farther from the sync slot, by its duration, than the order has it. -/
theorem trolling_skips_first_sessions (h_d : 1 ≤ d)
    (h_max : d ≤ maxTrollingRealFishSessionDurationSlots) (t₀ : TrollingPolicy) :
    ∃ t, t₀.restart d = .ok t ∧ ∀ k, 1 ≤ k → t.Unwrapped d (2 * k) →
      t.Fishes d k (firstSlotOrdinalToFish + k * d) (lastSlotOrdinalShouldFish - k * d) ∧
        ¬ t.FansOutward d k := by
  obtain ⟨t, h_restart, h_up, h_down, h_direction⟩ := restart_starts h_d h_max t₀
  have h_calls : ∀ i, preFishings d i t = .ok ((TrollingPolicy.proceeded d)^[i] t) :=
    fun i => preFishings_eq h_d h_max i (restart_counts h_d h_max h_restart)
  have h_start : t.Walked d 0 := ⟨by omega, by omega, h_direction⟩
  refine ⟨t, h_restart, fun k h_k h_unwrapped => ?_⟩
  obtain ⟨n, rfl⟩ : ∃ n, k = n + 1 := ⟨k - 1, by omega⟩
  have h_n := iterate_walked h_start h_calls n fun i h_i => h_unwrapped i (by omega)
  have h_up := h_unwrapped (2 * n) (by omega) _ (h_calls _)
  have h_down := h_unwrapped (2 * n + 1) (by omega) _ (h_calls _)
  rw [Function.iterate_succ_apply'] at h_down
  obtain ⟨h_first, h_second, -⟩ := h_n.proceeded h_up h_down
  have h_odd := h_calls (2 * n + 1)
  have h_even := h_calls (2 * n + 1 + 1)
  rw [Function.iterate_succ_apply'] at h_odd
  rw [Function.iterate_succ_apply', Function.iterate_succ_apply'] at h_even
  have h_fishes : t.Fishes d (n + 1) (firstSlotOrdinalToFish + (n + 1) * d)
      (lastSlotOrdinalShouldFish - (n + 1) * d) := by
    refine ⟨⟨_, h_odd, h_first⟩, _, h_even, ?_⟩
    rw [lastSlotOrdinalShouldFish_eq]
    omega
  refine ⟨h_fishes, fun h_fans => ?_⟩
  have h_next : (n + 1) * d = n * d + d := Nat.succ_mul n d
  have h_same := h_fishes.start_unique h_fans
  rw [Nat.add_sub_cancel] at h_same
  omega

end Order

/-- What a restart leaves where a session is one slot. -/
def restartedForOneSlot : TrollingPolicy := ⟨2, 1600, 2, 2, true⟩

theorem restartedForOneSlot_unwrapped : restartedForOneSlot.Unwrapped 1 2 := by
  intro i h_i t h_t
  have h_cases : i = 0 ∨ i = 1 := by omega
  rcases h_cases with rfl | rfl
  · cases h_t
    decide
  · cases h_t
    decide

/-- The third slot is fished first, and then the last but one. -/
theorem trolling_skips_first_sessions_ofOneSlot :
    restartedForOneSlot.Fishes 1 1 3 1599 ∧ ¬ restartedForOneSlot.FansOutward 1 1 := by
  obtain ⟨t, h_restart, h_sessions⟩ :=
    trolling_skips_first_sessions (d := 1) (by decide) (by decide) Fishing.initial.troll
  cases h_restart
  exact h_sessions 1 (by decide) restartedForOneSlot_unwrapped

/-- No counter has wrapped, and the sessions that abut the sync slot are not fished. -/
theorem oneSlot_sessions_skipped :
    Fishing.initial.troll.restart 1 = .ok restartedForOneSlot ∧
      restartedForOneSlot.Unwrapped 1 2 ∧ ¬ restartedForOneSlot.FansOutward 1 1 ∧
      (∃ t, preFishings 1 1 restartedForOneSlot = .ok t ∧ t.currentStartSlotOrdinal = 3) ∧
      ∃ t, preFishings 1 2 restartedForOneSlot = .ok t ∧ t.currentEndSlotOrdinal = 1599 := by
  refine ⟨rfl, restartedForOneSlot_unwrapped, ?_, ⟨_, rfl, rfl⟩, ⟨_, rfl, rfl⟩⟩
  rintro ⟨⟨t, h_t, h_start⟩, -⟩
  cases h_t
  exact absurd h_start (by decide)

end TrollingPolicy

end SleepSync
