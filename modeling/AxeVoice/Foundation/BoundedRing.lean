import Mathlib.Data.List.Basic

/-!
# Bounded rings

A bounded ring keeps the newest entries of a log: an entry is appended at the
back, and the oldest one is dropped once there are more than fit.  What a ring
holds is therefore the window of the log, and a loop that changes the first
entry it finds changes the newest one where only the newest one matches.
-/

namespace AxeVoice.Foundation

universe u v

variable {α : Type u} {β : Type v}

/-- `push_back`, then `pop_front` once the capacity is exceeded. -/
def pushBounded (capacity : ℕ) (ring : List α) (entry : α) : List α :=
  let grown := ring ++ [entry]
  if grown.length > capacity then grown.tail else grown

/-- The newest `capacity` entries of a log. -/
def window (capacity : ℕ) (log : List α) : List α := log.drop (log.length - capacity)

/-- The loop that changes the first entry it finds; nothing when it finds none. -/
def changeFirst (found : α → Bool) (change : α → α) : List α → Option (List α)
  | [] => none
  | entry :: rest =>
      if found entry then some (change entry :: rest)
      else (changeFirst found change rest).map (entry :: ·)

@[simp] theorem window_nil (capacity : ℕ) : window capacity ([] : List α) = [] := by
  simp [window]

theorem length_window (capacity : ℕ) (log : List α) :
    (window capacity log).length = min capacity log.length := by
  simp only [window, List.length_drop]
  omega

/-- Pushing on the window of a log is the window of the extended log. -/
theorem pushBounded_window {capacity : ℕ} (positive : 0 < capacity) (log : List α) (entry : α) :
    pushBounded capacity (window capacity log) entry = window capacity (log ++ [entry]) := by
  unfold pushBounded
  have length := length_window capacity log
  by_cases full : capacity ≤ log.length
  · have grown : (window capacity log ++ [entry]).length > capacity := by
      simp only [List.length_append, List.length_singleton, length]
      omega
    have nonempty : window capacity log ≠ [] := by
      intro empty
      rw [empty, List.length_nil] at length
      omega
    rw [if_pos grown, List.tail_append_of_ne_nil nonempty]
    have shifted : log.length + 1 - capacity = log.length - capacity + 1 := by omega
    simp only [window, List.length_append, List.length_singleton, shifted, List.tail_drop]
    rw [List.drop_append_of_le_length (by omega)]
  · have short : ¬ (window capacity log ++ [entry]).length > capacity := by
      simp only [List.length_append, List.length_singleton, length]
      omega
    rw [if_neg short]
    have zero : log.length - capacity = 0 := by omega
    have zero' : log.length + 1 - capacity = 0 := by omega
    simp [window, zero, zero']

theorem map_pushBounded (capacity : ℕ) (ring : List α) (entry : α) (f : α → β) :
    (pushBounded capacity ring entry).map f = pushBounded capacity (ring.map f) (f entry) := by
  unfold pushBounded
  simp only [List.length_append, List.length_map, List.length_singleton]
  split <;> simp

/-- A push keeps the entry last, behind a suffix of what was there. -/
theorem pushBounded_eq_append {capacity : ℕ} (positive : 0 < capacity) (ring : List α)
    (entry : α) : ∃ kept, kept <:+ ring ∧ pushBounded capacity ring entry = kept ++ [entry] := by
  unfold pushBounded
  dsimp only
  split
  · rename_i long
    cases ring with
    | nil =>
        simp only [List.nil_append, List.length_singleton] at long
        omega
    | cons oldest rest => exact ⟨rest, List.suffix_cons oldest rest, rfl⟩
  · exact ⟨ring, List.suffix_refl ring, rfl⟩

/-- Where no entry but the last is found, the loop changes the last. -/
theorem changeFirst_concat {found : α → Bool} {change : α → α} {older : List α} {newest : α}
    (others : ∀ entry ∈ older, found entry = false) (last : found newest = true) :
    changeFirst found change (older ++ [newest]) = some (older ++ [change newest]) := by
  induction older with
  | nil => simp [changeFirst, last]
  | cons entry rest ih =>
      have skipped : found entry = false := others entry List.mem_cons_self
      have later := ih fun entry member => others entry (List.mem_cons_of_mem _ member)
      simp [changeFirst, skipped, later]

/-- The loop over renamed entries, where the renaming is not noticed and keeps the change. -/
theorem changeFirst_map {found : β → Bool} {change : β → β} {found' : α → Bool} {change' : α → α}
    {rename : α → β} (unnoticed : ∀ entry, found (rename entry) = found' entry)
    (kept : ∀ entry, change (rename entry) = rename (change' entry)) (ring : List α) :
    changeFirst found change (ring.map rename) =
      (changeFirst found' change' ring).map (List.map rename) := by
  induction ring with
  | nil => rfl
  | cons entry rest ih =>
      simp only [List.map_cons, changeFirst, unnoticed]
      split
      · simp [kept]
      · rw [ih, Option.map_map, Option.map_map]
        rfl

end AxeVoice.Foundation
