import Mathlib.Data.List.Basic

/-!
# The most recent entries of a log

A log, newest entry first, in which later entries replace earlier ones of the same
key.  A bounded list of the most recent entries is kept by moving a new entry to the
front, in the place of the one that it replaces or of the oldest one.
-/

namespace AxeVoice.Foundation

universe u v

variable {α : Type u} {κ : Type v} [DecidableEq κ] (key : α → κ)

/-- The newest entry of every key, newest first. -/
def mostRecent : List α → List α
  | [] => []
  | entry :: rest => entry :: (mostRecent rest).filter fun other => key other ≠ key entry

/-- The entry in front of the others, without an older one of its key, within the capacity. -/
def moveToFront (capacity : ℕ) (entry : α) (entries : List α) : List α :=
  entry :: (entries.filter fun other => key other ≠ key entry).take (capacity - 1)

variable {key}

theorem mostRecent_sublist (log : List α) : (mostRecent key log).Sublist log := by
  induction log with
  | nil => exact List.Sublist.slnil
  | cons entry rest ih => exact (List.filter_sublist.trans ih).cons_cons entry

theorem mostRecent_distinct (log : List α) :
    (mostRecent key log).Pairwise fun first second => key first ≠ key second := by
  induction log with
  | nil => exact List.Pairwise.nil
  | cons entry rest ih =>
      refine List.Pairwise.cons ?_ (ih.sublist List.filter_sublist)
      intro other member
      exact fun same => of_decide_eq_true (List.mem_filter.mp member).2 same.symm

omit [DecidableEq κ] in
/-- Duplicates go the same way before and after a filter. -/
theorem eraseDups_filter [BEq κ] [LawfulBEq κ] (keep : κ → Bool) (keys : List κ) :
    (keys.filter keep).eraseDups = keys.eraseDups.filter keep := by
  induction size : keys.length using Nat.strongRecOn generalizing keys with
  | _ count ih =>
      cases keys with
      | nil => rfl
      | cons first rest =>
          have shorter : (rest.filter fun other => !other == first).length < count := by
            rw [← size]
            exact Nat.lt_succ_of_le (List.length_filter_le ..)
          have inner := ih _ shorter (rest.filter fun other => !other == first) rfl
          rw [List.eraseDups_cons]
          by_cases here : keep first = true
          · rw [List.filter_cons_of_pos here, List.filter_cons_of_pos here, List.eraseDups_cons,
              ← inner, List.filter_comm]
          · rw [List.filter_cons_of_neg here, List.filter_cons_of_neg here, ← inner,
              List.filter_filter]
            congr 1
            apply List.filter_congr
            intro other _
            by_cases same : other = first
            · subst same
              simp [here]
            · simp [same]

/-- The keys of the most recent entries are those of the log, each at its newest occurrence. -/
theorem map_mostRecent [BEq κ] [LawfulBEq κ] (log : List α) :
    (mostRecent key log).map key = (log.map key).eraseDups := by
  induction log with
  | nil => rfl
  | cons entry rest ih =>
      have filtered : ((mostRecent key rest).filter fun other => decide (key other ≠ key entry)).map key =
          ((mostRecent key rest).map key).filter fun other => !other == key entry := by
        rw [List.filter_map]
        congr 1
        apply List.filter_congr
        intro other _
        by_cases same : key other = key entry <;> simp [same]
      rw [mostRecent, List.map_cons, filtered, ih, List.map_cons, List.eraseDups_cons,
        eraseDups_filter]

/-- Taking one entry out of those of the capacity leaves those that come first without it. -/
theorem take_filter_take {entries : List α} (distinct : entries.Pairwise fun first second =>
    key first ≠ key second) (removed : κ) (count : ℕ) :
    ((entries.take (count + 1)).filter fun other => key other ≠ removed).take count =
      (entries.filter fun other => key other ≠ removed).take count := by
  induction entries generalizing count with
  | nil => rfl
  | cons entry rest ih =>
      obtain ⟨apart, later⟩ := List.pairwise_cons.mp distinct
      rw [List.take_succ_cons]
      by_cases here : key entry = removed
      · -- the others have other keys
        have stay : ∀ other ∈ rest, decide (key other ≠ removed) = true := fun other member =>
          decide_eq_true fun same => apart other member (here.trans same.symm)
        have gone : decide (key entry ≠ removed) = false := decide_eq_false (not_not.mpr here)
        simp only [List.filter_cons, gone, Bool.false_eq_true, if_false]
        rw [List.filter_eq_self.mpr fun other member => stay other (List.mem_of_mem_take member),
          List.filter_eq_self.mpr stay, List.take_take, Nat.min_self]
      · have kept : decide (key entry ≠ removed) = true := decide_eq_true here
        simp only [List.filter_cons, kept, if_true]
        cases count with
        | zero => rfl
        | succ count => rw [List.take_succ_cons, List.take_succ_cons, ih later]

/-- Moving a new entry to the front keeps the most recent entries of the log. -/
theorem moveToFront_mostRecent {capacity : ℕ} (positive : 0 < capacity) (entry : α) (log : List α) :
    moveToFront key capacity entry ((mostRecent key log).take capacity) =
      (mostRecent key (entry :: log)).take capacity := by
  obtain ⟨count, rfl⟩ : ∃ count, capacity = count + 1 := ⟨capacity - 1, by omega⟩
  rw [moveToFront, Nat.add_sub_cancel, take_filter_take (mostRecent_distinct log), mostRecent,
    List.take_succ_cons]

end AxeVoice.Foundation
