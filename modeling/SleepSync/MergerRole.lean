/-
  SleepSync.MergerRole

  What an event does to the role of a unit and to what it will say as a merger.

  A unit becomes a merger at one place only, a catch while it trolls, and there
  the superior clique is the clique it is in after the catch.  Everything else
  leaves the merger as it is or ends the role.  What an active merger sends are
  messages of mergers, and these never carry sync.
-/

import SleepSync.ProtocolSystem

namespace SleepSync

open Lib Protocol

/-- How one event changes the role and the merger: `heard` is the message it
    handles, if any. -/
inductive MergerChange (heard : Option SyncMessage) (p p' : Protocol) : Prop
  | kept (h_role : p'.role = p.role) (h_merger : p'.cliqueMerger = p.cliqueMerger)
  | left (h_role : p'.role ≠ .merger)
      (h_merger : p'.cliqueMerger = p.cliqueMerger ∨
        p'.cliqueMerger = p.cliqueMerger.deactivate)
  | became {msg : SyncMessage} (h_heard : heard = some msg) (h_was : p.role = .fisher)
      (h_mode : p.fishing.mode = .trolling) (h_role : p'.role = .merger)
      (h_fishing : p'.fishing = p.fishing)
      (h_superior : p'.cliqueMerger.superiorMasterID = p'.masterID)
      (h_kind : p'.cliqueMerger.kindOfMerger.isMerge = true)

section Changes

variable {c : Config} {e : Env} {p p' : Protocol} {ev : ProtocolEvent} {msg : SyncMessage}

theorem fisher_ne_merger : Role.fisher ≠ Role.merger := by decide

theorem noFishing_ne_merger : Role.noFishing ≠ Role.merger := by decide

theorem kindOfDepart_isMerge (c : Config) (p : Protocol) :
    (kindOfDepart c p).isMerge = true := by
  unfold kindOfDepart
  split <;> rfl

theorem toNoFishingFromOther_change (heard : Option SyncMessage) (p : Protocol) :
    MergerChange heard p p.toNoFishingFromOther := by
  unfold toNoFishingFromOther
  split
  · exact MergerChange.left noFishing_ne_merger (Or.inr rfl)
  · exact MergerChange.left noFishing_ne_merger (Or.inl rfl)

/-- A mode transition keeps the merger, or ends the role. -/
theorem checkPowerAndTryModeTransitions_change (c : Config) (e : Env) (p : Protocol)
    (heard : Option SyncMessage) :
    MergerChange heard p (p.checkPowerAndTryModeTransitions c e) := by
  have h_only : MergerChange heard p p.toSyncOnly :=
    match toNoFishingFromOther_change heard { p with mode := .syncOnly } with
    | .kept h_role h_merger => .kept h_role h_merger
    | .left h_role h_merger => .left h_role h_merger
    | .became h_heard h_was h_mode h_role h_fishing h_superior h_kind =>
        .became h_heard h_was h_mode h_role h_fishing h_superior h_kind
  unfold checkPowerAndTryModeTransitions
  split
  · split
    · exact MergerChange.kept rfl rfl
    · exact MergerChange.kept rfl rfl
  · split
    · exact MergerChange.kept rfl rfl
    · split
      · exact MergerChange.left fisher_ne_merger (Or.inl rfl)
      · exact MergerChange.kept rfl rfl
  · split
    · exact h_only
    · obtain ⟨b, n, h_prov⟩ := shouldProvision_eq c p
      rw [h_prov]
      cases b
      · exact MergerChange.kept rfl rfl
      · exact MergerChange.kept rfl rfl
  · split
    · exact h_only
    · exact MergerChange.kept rfl rfl

theorem Protocol.SyncSlotHeard.merger (h : SyncSlotHeard c e p msg p') :
    p'.role = p.role ∧ p'.cliqueMerger = p.cliqueMerger := by
  cases h <;> exact ⟨rfl, rfl⟩

theorem Protocol.FishSlotHeard.merger (h : FishSlotHeard c e p msg p') :
    MergerChange (some msg) p p' := by
  cases h with
  | mergesMy h_role h_mode =>
      exact MergerChange.became rfl h_role h_mode rfl rfl rfl (kindOfDepart_isMerge c p)
  | mergesOther h_role h_mode =>
      exact MergerChange.became rfl h_role h_mode rfl rfl rfl rfl
  | caughtDeep => exact MergerChange.kept rfl rfl
  | kept => exact MergerChange.kept rfl rfl

/-- Every completed event keeps the merger, ends the role, or is a catch. -/
theorem stepProtocol_merger (h : stepProtocol c p e ev = .ok p') :
    MergerChange ev.heard p p' := by
  cases stepProtocol_done h with
  | heard h_heard =>
      obtain ⟨h_role, h_merger⟩ := h_heard.merger
      exact MergerChange.kept h_role h_merger
  | fished h_fished => exact h_fished.merger
  | listened h_ended => cases h_ended <;> exact MergerChange.kept rfl rfl
  | checked h_checked => cases h_checked <;> exact MergerChange.kept rfl rfl
  | completed => exact MergerChange.left fisher_ne_merger (Or.inr rfl)
  | booked h_book =>
      obtain ⟨f, -, h_eq⟩ := bookkeepingAtPreludeToSyncSlot_eq_ok h_book
      rw [h_eq]
      exact match checkPowerAndTryModeTransitions_change c e (p.callApp .onSyncPoint) none with
        | .kept h_role h_merger => .kept h_role h_merger
        | .left h_role h_merger => .left h_role h_merger
  | _ => exact MergerChange.kept rfl rfl

/-- The type of the merge message a unit would send never carries sync. -/
theorem MergerChange.kindOfMerger {heard : Option SyncMessage}
    (h : MergerChange heard p p') (h_p : p.cliqueMerger.kindOfMerger.doesCarrySync = false) :
    p'.cliqueMerger.kindOfMerger.doesCarrySync = false := by
  cases h with
  | kept _ h_merger =>
      rw [h_merger]
      exact h_p
  | left _ h_merger =>
      rcases h_merger with h_eq | h_eq <;> rw [h_eq] <;> exact h_p
  | became _ _ _ _ _ _ h_kind => exact MessageType.doesCarrySync_of_isMerge h_kind

/-- What an active merger sends are messages of mergers. -/
def Protocol.SaysMerge (p : Protocol) : Prop :=
  p.cliqueMerger.isActive = true → p.cliqueMerger.kindOfMerger.isMerge = true

theorem MergerChange.saysMerge {heard : Option SyncMessage} (h : MergerChange heard p p')
    (h_p : p.SaysMerge) : p'.SaysMerge := by
  intro h_active
  cases h with
  | kept _ h_merger =>
      rw [h_merger] at h_active ⊢
      exact h_p h_active
  | left _ h_merger =>
      rcases h_merger with h_eq | h_eq
      · rw [h_eq] at h_active ⊢
        exact h_p h_active
      · rw [h_eq] at h_active
        cases h_active
  | became _ _ _ _ _ _ h_kind => exact h_kind

/-- The merge message that is built is one. -/
theorem Protocol.SaysMerge.isMerge (h : p.SaysMerge) (h_msg : p.makeMergeMsg c e = .ok msg) :
    msg.type.isMerge = true := by
  obtain ⟨h_active, h_type, -⟩ := makeMergeMsg_eq_ok h_msg
  rw [h_type]
  exact h h_active

end Changes

end SleepSync
