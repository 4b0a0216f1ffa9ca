/-
  SleepSync.Lib.Trace

  Traces, latest event first, and what lies between two consecutive events of a
  kind, the marks.

  A property of all that lies between consecutive marks is proved along the
  trace as it grows: an event that is no mark adds nothing to prove, and a mark
  asks about `since`, the events after the last one before it.
-/

import Mathlib.Data.List.Basic

namespace Lib

universe u

variable {α : Type u}

/-- `earlier` and `later` are marks of the trace, and `seg` is all that lies
    between, with no mark in it. -/
def Between (mark : α → Bool) (l : List α) (earlier later : α) (seg : List α) : Prop :=
  mark earlier = true ∧ mark later = true ∧ (∀ x ∈ seg, mark x = false) ∧
    ∃ pre post, l = pre ++ later :: (seg ++ earlier :: post)

/-- The events after the last mark. -/
def since (mark : α → Bool) (l : List α) : List α :=
  l.takeWhile (fun x => !mark x)

/-- All that lies between consecutive marks is good. -/
def EveryGap (mark : α → Bool) (good : α → α → List α → Prop) (l : List α) : Prop :=
  ∀ earlier later seg, Between mark l earlier later seg → good earlier later seg

section Growth

variable {mark : α → Bool} {good : α → α → List α → Prop} {x : α} {l : List α}

theorem since_nil : since mark [] = [] := rfl

theorem since_cons_of_mark (h : mark x = true) : since mark (x :: l) = [] := by
  unfold since
  rw [List.takeWhile_cons, h]
  rfl

theorem since_cons_of_not (h : mark x = false) : since mark (x :: l) = x :: since mark l := by
  unfold since
  rw [List.takeWhile_cons, h]
  rfl

/-- Up to the last mark, a trace is what is since it. -/
theorem since_append_mark {seg : List α} {earlier : α} (h_mark : mark earlier = true)
    (h_seg : ∀ x ∈ seg, mark x = false) (post : List α) :
    since mark (seg ++ earlier :: post) = seg ∧
      (seg ++ earlier :: post).find? mark = some earlier := by
  induction seg with
  | nil =>
      rw [List.nil_append]
      exact ⟨since_cons_of_mark h_mark, List.find?_cons_of_pos h_mark⟩
  | cons y seg ih =>
      have h_y : mark y = false := h_seg y List.mem_cons_self
      obtain ⟨h_since, h_find⟩ := ih (fun z h_z => h_seg z (List.mem_cons_of_mem y h_z))
      rw [List.cons_append]
      refine ⟨?_, ?_⟩
      · rw [since_cons_of_not h_y, h_since]
      · rw [List.find?_cons_of_neg (by rw [h_y]; exact Bool.noConfusion), h_find]

/-- Between the marks of a trace with one more event. -/
theorem Between.of_cons {earlier later : α} {seg : List α}
    (h : Between mark (x :: l) earlier later seg) :
    Between mark l earlier later seg ∨
      (later = x ∧ mark x = true ∧ seg = since mark l ∧ l.find? mark = some earlier) := by
  obtain ⟨h_earlier, h_later, h_seg, pre, post, h_eq⟩ := h
  cases pre with
  | nil =>
      rw [List.nil_append, List.cons.injEq] at h_eq
      obtain ⟨rfl, rfl⟩ := h_eq
      obtain ⟨h_since, h_find⟩ := since_append_mark h_earlier h_seg post
      exact Or.inr ⟨rfl, h_later, h_since.symm, h_find⟩
  | cons y pre =>
      rw [List.cons_append, List.cons.injEq] at h_eq
      exact Or.inl ⟨h_earlier, h_later, h_seg, pre, post, h_eq.2⟩

theorem EveryGap.nil : EveryGap mark good [] := by
  rintro earlier later seg ⟨-, -, -, pre, post, h_eq⟩
  cases pre with
  | nil => cases h_eq
  | cons y pre => cases h_eq

/-- An event that is no mark. -/
theorem EveryGap.cons_of_not (h : EveryGap mark good l) (h_x : mark x = false) :
    EveryGap mark good (x :: l) := by
  intro earlier later seg h_between
  rcases h_between.of_cons with h_old | ⟨-, h_mark, -⟩
  · exact h earlier later seg h_old
  · rw [h_x] at h_mark
    cases h_mark

/-- A mark, which ends what is since the last one. -/
theorem EveryGap.cons (h : EveryGap mark good l)
    (h_x : ∀ earlier, l.find? mark = some earlier → good earlier x (since mark l)) :
    EveryGap mark good (x :: l) := by
  intro earlier later seg h_between
  rcases h_between.of_cons with h_old | ⟨rfl, -, rfl, h_find⟩
  · exact h earlier later seg h_old
  · exact h_x earlier h_find

/-- Events that are no marks. -/
theorem since_append_of_not {new : List α} (h : ∀ x ∈ new, mark x = false) (l : List α) :
    since mark (new ++ l) = new ++ since mark l := by
  induction new with
  | nil => rfl
  | cons x new ih =>
      have h_x := h x List.mem_cons_self
      rw [List.cons_append, since_cons_of_not h_x,
        ih fun y h_y => h y (List.mem_cons_of_mem x h_y), List.cons_append]

theorem EveryGap.append_of_not {new : List α} (h : EveryGap mark good l)
    (h_new : ∀ x ∈ new, mark x = false) : EveryGap mark good (new ++ l) := by
  induction new with
  | nil => exact h
  | cons x new ih =>
      have h_x := h_new x List.mem_cons_self
      rw [List.cons_append]
      exact (ih fun y h_y => h_new y (List.mem_cons_of_mem x h_y)).cons_of_not h_x

end Growth

-- ============================================================================
-- The last gap
-- ============================================================================

/-- The last two marks and what lies between them. -/
def lastGap (mark : α → Bool) (l : List α) : Option (α × α × List α) :=
  match l.dropWhile (fun x => !mark x) with
  | [] => none
  | later :: rest =>
      match rest.dropWhile (fun x => !mark x) with
      | [] => none
      | earlier :: _ => some (earlier, later, since mark rest)

/-- A trace up to the last mark in it. -/
theorem since_append_dropWhile (mark : α → Bool) (l : List α) {x : α} {post : List α}
    (h : l.dropWhile (fun y => !mark y) = x :: post) :
    l = since mark l ++ x :: post ∧ mark x = true ∧ ∀ y ∈ since mark l, mark y = false := by
  refine ⟨?_, ?_, ?_⟩
  · rw [← h]
    exact List.takeWhile_append_dropWhile.symm
  · have h_ne : l.dropWhile (fun y => !mark y) ≠ [] := by
      rw [h]
      exact List.cons_ne_nil x post
    have h_head := List.head_dropWhile_not (fun y => !mark y) h_ne
    simp only [h, List.head_cons, Bool.not_eq_false'] at h_head
    exact h_head
  · intro y h_y
    have h_not := List.all_eq_true.1 List.all_takeWhile y h_y
    exact (Bool.not_eq_true' _).mp h_not

theorem between_of_lastGap {mark : α → Bool} {l seg : List α} {earlier later : α}
    (h : lastGap mark l = some (earlier, later, seg)) : Between mark l earlier later seg := by
  unfold lastGap at h
  split at h
  · cases h
  · rename_i later' rest h_later
    split at h
    · cases h
    · rename_i earlier' post h_earlier
      cases h
      obtain ⟨h_l, h_mark, -⟩ := since_append_dropWhile mark l h_later
      obtain ⟨h_rest, h_mark', h_seg⟩ := since_append_dropWhile mark rest h_earlier
      refine ⟨h_mark', h_mark, h_seg, since mark l, post, ?_⟩
      rw [← h_rest]
      exact h_l

end Lib
