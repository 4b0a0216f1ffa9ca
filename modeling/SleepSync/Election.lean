/-
  SleepSync.Election

  Any number of units with distinct IDs, which elect masters by comparing IDs
  in the sync messages they hear.

  The network keeps every message that was sent: a unit may hear it at any
  later time, again, or not at all, so what is in flight can carry the ID of a
  master that its sender has left.  A master ID in flight is still the ID of
  some unit, since a unit sends its own master's ID and takes over only IDs it
  heard or its own.  A unit takes over only better IDs; every other change
  resets to its own ID, reversion included, because the record that reversion
  reads is the unit's own.
-/

import SleepSync.MergerRole
import SleepSync.ScheduleBounds
import SleepSync.WireFormat
import SleepSync.Lib.Network
import SleepSync.Lib.Pointers

namespace SleepSync

open Lib Protocol

/-- Units with distinct system IDs. -/
structure Units (ι : Type) where
  config : ι → Config
  id_injective : Function.Injective fun i => (config i).id
  id_lt : ∀ i, (config i).id < 2 ^ 48

namespace Units

variable {ι : Type} (u : Units ι)

def parties :
    Parties ι Protocol (Env × ProtocolEvent) (Env × Transmission) SyncMessage Fault where
  init i p := (protocolSystem (u.config i)).init p
  step i p l := stepProtocol (u.config i) p l.1 l.2
  heard l := l.2.heard
  send i p k := p.transmit (u.config i) k.1 k.2

/-- A unit of the network follows only IDs of units, none worse than its own. -/
structure Follows (i : ι) (p : Protocol) : Prop where
  masterID_mem : ∃ j, p.masterID = (u.config j).id
  masterID_le : p.masterID ≤ (u.config i).id
  firstRecord : p.history.recordMasterID 0 = (u.config i).id
  kindOfMerger : p.cliqueMerger.kindOfMerger.doesCarrySync = false

/-- A message that carries sync names a unit of the network. -/
def NamesUnit (msg : SyncMessage) : Prop :=
  msg.type.doesCarrySync = true → ∃ j, msg.masterID = (u.config j).id

end Units

-- ============================================================================
-- One step of one unit
-- ============================================================================

section OneStep

variable {c : Config} {e : Env} {heard : Option SyncMessage} {v v' : CliqueState}

/-- Record zero is never written after the start. -/
theorem CliqueHistory.add_first (h : CliqueHistory) (newMasterID : Nat) :
    (h.add newMasterID).recordMasterID 0 = h.recordMasterID 0 := by
  unfold add recordMasterID
  split
  · simp only [List.getD_eq_getElem?_getD, List.getElem?_set_ne (Nat.succ_ne_zero _)]
  · rfl

theorem CliqueHistory.pop_first {h h' : CliqueHistory}
    (h_pop : h.setCurrentCliqueRecordToFormerClique = .ok h') :
    h'.recordMasterID 0 = h.recordMasterID 0 := by
  obtain ⟨-, h_eq⟩ := require_bind_eq_ok.1 h_pop
  cases h_eq
  rfl

theorem CliqueState.withMaster_masterID (v : CliqueState) (otherID : Nat) :
    (v.withMaster otherID).masterID = otherID := by
  unfold withMaster
  split
  · rfl
  · rename_i h
    exact not_not.1 h

theorem CliqueState.withMaster_first (v : CliqueState) (otherID : Nat) :
    (v.withMaster otherID).history.recordMasterID 0 = v.history.recordMasterID 0 := by
  unfold withMaster
  split
  · exact v.history.add_first otherID
  · rfl

theorem CliqueChange.firstRecord (h : CliqueChange c e heard v v') :
    v'.history.recordMasterID 0 = v.history.recordMasterID 0 := by
  cases h with
  | kept => rfl
  | rolled => rfl
  | joined => exact v.withMaster_first _
  | assumed => rfl
  | scattered => rfl
  | grabbed h_pop => exact CliqueHistory.pop_first h_pop
  | reverted h_pop =>
      exact (CliqueState.withMaster_first _ _).trans (CliqueHistory.pop_first h_pop)

/-- The master stays, is that of a heard message that is not worse, or is the
    unit itself. -/
theorem CliqueChange.masterID (h : CliqueChange c e heard v v')
    (h_first : v.history.recordMasterID 0 = c.id) :
    v'.masterID = v.masterID ∨
      (∃ msg, heard = some msg ∧ msg.type.doesCarrySync = true ∧
        v'.masterID = msg.masterID ∧ msg.masterID ≤ v.masterID) ∨
      v'.masterID = c.id := by
  cases h with
  | kept => exact Or.inl rfl
  | rolled => exact Or.inl rfl
  | joined h_heard h_carries h_le =>
      exact Or.inr (Or.inl ⟨_, h_heard, h_carries, v.withMaster_masterID _, h_le⟩)
  | assumed => exact Or.inr (Or.inr rfl)
  | scattered => exact Or.inr (Or.inr rfl)
  | grabbed => exact Or.inr (Or.inr rfl)
  | reverted h_pop =>
      have h_own := (CliqueHistory.pop_first h_pop).trans h_first
      exact Or.inr (Or.inr ((CliqueState.withMaster_masterID _ _).trans h_own))

variable {p p' : Protocol} {ev : ProtocolEvent}

/-- What any event can do to the master of a unit whose first record is its own:
    nothing, strictly improve it, or reset it. -/
theorem stepProtocol_masterID (h_first : p.history.recordMasterID 0 = c.id)
    (h : stepProtocol c p e ev = .ok p') :
    p'.masterID = p.masterID ∨ p.isOtherCliqueBetter p'.masterID = true ∨
      p'.masterID = c.id := by
  rcases (stepProtocol_clique h).masterID h_first with h_same | h_heard | h_own
  · exact Or.inl h_same
  · obtain ⟨msg, -, -, h_msg, h_le⟩ := h_heard
    rcases Nat.eq_or_lt_of_le (h_msg.trans_le h_le) with h_eq | h_lt
    · exact Or.inl h_eq
    · exact Or.inr (Or.inl (decide_eq_true h_lt))
  · exact Or.inr (Or.inr h_own)

end OneStep

-- ============================================================================
-- The network
-- ============================================================================

namespace Units

variable {ι : Type} {u : Units ι} {w w' : Network ι Protocol SyncMessage}

theorem Follows.boot (i : ι) {p : Protocol} (h : u.parties.init i p) : u.Follows i p := by
  obtain ⟨initTime, loopTime, rfl⟩ := h
  exact ⟨⟨i, rfl⟩, Nat.le_refl _, rfl, rfl⟩

theorem Follows.step {i : ι} {p p' : Protocol} {l : Env × ProtocolEvent}
    (h : u.Follows i p) (h_heard : ∀ msg ∈ l.2.heard, u.NamesUnit msg)
    (h_step : u.parties.step i p l = .ok p') : u.Follows i p' := by
  have h_change := stepProtocol_clique h_step
  have h_first : p'.history.recordMasterID 0 = (u.config i).id :=
    h_change.firstRecord.trans h.firstRecord
  have h_kind := (stepProtocol_merger h_step).kindOfMerger h.kindOfMerger
  rcases h_change.masterID h.firstRecord with h_same | h_msg | h_own
  · have h_eq : p'.masterID = p.masterID := h_same
    exact ⟨h_eq ▸ h.masterID_mem, h_eq ▸ h.masterID_le, h_first, h_kind⟩
  · obtain ⟨msg, h_some, h_carries, h_eq, h_le⟩ := h_msg
    obtain ⟨j, h_j⟩ := h_heard msg h_some h_carries
    have h_eq' : p'.masterID = msg.masterID := h_eq
    refine ⟨⟨j, h_eq'.trans h_j⟩, ?_, h_first, h_kind⟩
    calc p'.masterID = msg.masterID := h_eq
      _ ≤ p.masterID := h_le
      _ ≤ (u.config i).id := h.masterID_le
  · exact ⟨⟨i, h_own⟩, Nat.le_of_eq h_own, h_first, h_kind⟩

theorem Follows.transmit {i : ι} {p : Protocol} {k : Env × Transmission} {msg : SyncMessage}
    (h : u.Follows i p) (h_send : u.parties.send i p k = .ok msg) : u.NamesUnit msg := by
  intro h_carries
  obtain ⟨j, h_j⟩ := h.masterID_mem
  exact ⟨j, (transmit_masterID h.kindOfMerger h_send h_carries).trans h_j⟩

/-- Where the master IDs of a network point to. -/
def IsMasterOf (u : Units ι) (w : Network ι Protocol SyncMessage) (master : ι → ι) : Prop :=
  ∀ i, (u.config (master i)).id = (w.party i).masterID

/-- A unit that points to itself is its own master. -/
theorem IsMasterOf.isSelfMaster {master : ι → ι} (h_master : u.IsMasterOf w master) {i : ι}
    (h_fixed : master i = i) : (w.party i).isSelfMaster (u.config i) = true := by
  refine decide_eq_true ?_
  rw [← h_master i, h_fixed]

variable [DecidableEq ι]

/-- In every reachable state of the network every unit follows a unit, and so
    does every message in flight. -/
theorem network_follows (h : u.parties.network.Reachable w) :
    (∀ i, u.Follows i (w.party i)) ∧ ∀ msg ∈ w.sent, u.NamesUnit msg :=
  Parties.network_invariant u.Follows u.NamesUnit (fun i _ h_init => Follows.boot i h_init)
    (fun _ _ _ _ h_I h_heard h_step => h_I.step h_heard h_step)
    (fun _ _ _ _ h_I h_send => h_I.transmit h_send) h

/-- The messages that elections rest on are delivered as they were sent: the
    encodings of their types agree, and the ID of a unit fits. -/
theorem network_delivers (h : u.parties.network.Reachable w) {msg : SyncMessage}
    (h_sent : msg ∈ w.sent) (h_carries : msg.type.doesCarrySync = true)
    (buf : RadioBuffer) :
    Serializer.unserialize (Serializer.serializeSyncMessageIntoRadioBuffer msg buf) =
      .ok (some msg) := by
  obtain ⟨j, h_j⟩ := (network_follows h).2 msg h_sent h_carries
  have h_type : msg.type ≠ .invalid := by
    intro h_invalid
    rw [h_invalid] at h_carries
    cases h_carries
  have h_build : Serializer.IsBuildable msg := ⟨h_type, h_j ▸ u.id_lt j⟩
  exact (Serializer.unserialize_serialize_iff msg buf h_build).2 h_carries

theorem IsMasterOf.descending {master : ι → ι} (h_master : u.IsMasterOf w master)
    (h : u.parties.network.Reachable w) :
    Descending (fun i => (u.config i).id) master where
  rank_injective := u.id_injective
  rank_le i := by
    have h_le := ((network_follows h).1 i).masterID_le
    rw [h_master i]
    exact h_le

theorem network_step_masterID (h : u.parties.network.Reachable w)
    {l : NetworkEvent ι (Env × ProtocolEvent) (Env × Transmission)}
    (h_en : u.parties.network.enabled w l) (h_step : u.parties.network.step w l = .ok w')
    (i : ι) :
    (w'.party i).masterID = (w.party i).masterID ∨
      (w.party i).isOtherCliqueBetter (w'.party i).masterID = true ∨
      (w'.party i).masterID = (u.config i).id := by
  rcases Parties.network_step h_en h_step with ⟨j, l', s, -, h_s, rfl⟩ | ⟨j, k, msg, -, rfl⟩
  · dsimp only
    by_cases h_ij : i = j
    · rw [h_ij, Function.update_self]
      exact stepProtocol_masterID ((network_follows h).1 j).firstRecord h_s
    · rw [Function.update_of_ne h_ij]
      exact Or.inl rfl
  · exact Or.inl rfl

/-- Safety of the election.  In every reachable state of the network a master ID
    is that of a unit and not worse than the unit's own; a step leaves it,
    strictly improves it or resets it; following it has no cycle and ends at a
    unit that is its own master, which the best unit is. -/
theorem election_safety (h : u.parties.network.Reachable w) :
    (∀ i, (∃ j, (w.party i).masterID = (u.config j).id) ∧
      (w.party i).masterID ≤ (u.config i).id) ∧
    (∀ l w', u.parties.network.enabled w l → u.parties.network.step w l = .ok w' → ∀ i,
      (w'.party i).masterID = (w.party i).masterID ∨
        (w.party i).isOtherCliqueBetter (w'.party i).masterID = true ∨
        (w'.party i).masterID = (u.config i).id) ∧
    (∃ master, u.IsMasterOf w master ∧
      (∀ i n, master^[n + 1] i = i → master i = i) ∧
      ∀ i, ∃ n, (w.party (master^[n] i)).isSelfMaster (u.config (master^[n] i)) = true) ∧
    (∀ i, (∀ j, (u.config i).id ≤ (u.config j).id) →
      (w.party i).isSelfMaster (u.config i) = true) := by
  have h_follows := (network_follows h).1
  choose master h_id using fun i => (h_follows i).masterID_mem
  have h_master : u.IsMasterOf w master := fun i => (h_id i).symm
  have h_desc := h_master.descending h
  refine ⟨fun i => ⟨(h_follows i).masterID_mem, (h_follows i).masterID_le⟩, ?_, ?_, ?_⟩
  · intro l w' h_en h_step i
    exact network_step_masterID h h_en h_step i
  · refine ⟨master, h_master, fun i n h_cycle => h_desc.fixed_of_iterate_eq h_cycle, ?_⟩
    intro i
    obtain ⟨n, h_fixed⟩ := h_desc.exists_fixed i
    exact ⟨n, h_master.isSelfMaster h_fixed⟩
  · intro i h_best
    exact h_master.isSelfMaster (h_desc.fixed_of_least h_best)

-- ============================================================================
-- Two units
-- ============================================================================

/-- Units with IDs 5 and 3. -/
def fiveAndThree : Units (Fin 2) where
  config i := if i = 0 then unitFive else unitThree
  id_injective := by
    have h_ids : ∀ i j : Fin 2,
        (if i = 0 then unitFive else unitThree).id =
          (if j = 0 then unitFive else unitThree).id → i = j := by decide
    exact fun i j h => h_ids i j h
  id_lt := by decide

/-- The unit with ID 5. -/
def five : Fin 2 := 0

/-- The unit with ID 3. -/
def three : Fin 2 := 1

/-- The better unit sends at its first sync point, the other one hears it. -/
def fiveJoinsThree :
    List (NetworkEvent (Fin 2) (Env × ProtocolEvent) (Env × Transmission)) :=
  [.send 1 (Env.quiet 0, .masterSync),
    .act 0 (arriving 10, .hearInSyncSlot firstMasterSync)]

def fiveAndThreeBooted : Network (Fin 2) Protocol SyncMessage where
  party i := (Protocol.boot (fiveAndThree.config i) 0 0).preludeToSyncPeriod
  sent := []

theorem election_safety_fiveJoinsThree :
    ∃ w, fiveAndThree.parties.network.Reachable w ∧ (w.party 0).masterID = 3 ∧
      (∃ j, (w.party 0).masterID = (fiveAndThree.config j).id) ∧
      (w.party 1).isSelfMaster (fiveAndThree.config 1) = true := by
  obtain ⟨w, h, h_master⟩ :=
    System.Reachable.exists_of_play (M := fiveAndThree.parties.network)
      (P := fun w => (w.party 0).masterID = 3) fiveJoinsThree
      (show fiveAndThree.parties.network.init fiveAndThreeBooted from
        ⟨fun i => ⟨0, 0, rfl⟩, rfl⟩)
      (by decide +kernel)
  obtain ⟨h_mem, -, -, h_best⟩ := election_safety h
  exact ⟨w, h, h_master, (h_mem 0).1, h_best 1 (by decide)⟩

end Units

end SleepSync
