import Mathlib.Data.List.Perm.Basic

/-!
# Tables of handles

A system gives handles out and takes them back.  It notes when a handle is used or
closed that is not open.  A program owns handles if those that are open are the
ones that it holds, each once; every operation has a rule for what it owns.
-/

namespace AxeVoice.Foundation

structure HandleTable where
  /-- Handles are not given out again. -/
  next : ℕ := 1
  opened : List ℕ := []
  /-- A handle that is not open was used or closed. -/
  misused : Bool := false
  deriving DecidableEq, Repr

namespace HandleTable

/-- A handle is given out. -/
def create (table : HandleTable) : HandleTable :=
  { table with next := table.next + 1, opened := table.next :: table.opened }

def close (table : HandleTable) (handle : ℕ) : HandleTable :=
  if handle ∈ table.opened then { table with opened := table.opened.erase handle }
  else { table with misused := true }

def uses (table : HandleTable) (handle : ℕ) : HandleTable :=
  if handle ∈ table.opened then table else { table with misused := true }

@[simp] theorem create_next (table : HandleTable) : table.create.next = table.next + 1 := rfl

@[simp] theorem close_next (table : HandleTable) (handle : ℕ) :
    (table.close handle).next = table.next := by
  unfold close
  split <;> rfl

@[simp] theorem uses_next (table : HandleTable) (handle : ℕ) :
    (table.uses handle).next = table.next := by
  unfold uses
  split <;> rfl

end HandleTable

/-- The open handles are the ones that are held. -/
structure Owns (table : HandleTable) (held : List ℕ) : Prop where
  used : table.misused = false
  opened : table.opened.Perm held
  distinct : held.Nodup
  given : ∀ handle ∈ held, handle < table.next

namespace Owns

variable {table : HandleTable} {held : List ℕ} {handle : ℕ}

theorem initial : Owns {} [] := ⟨rfl, .refl _, .nil, fun _ member => by cases member⟩

theorem perm (owns : Owns table held) {other : List ℕ} (same : held.Perm other) :
    Owns table other :=
  ⟨owns.used, owns.opened.trans same, same.nodup_iff.mp owns.distinct,
    fun handle member => owns.given handle (same.mem_iff.mpr member)⟩

theorem create (owns : Owns table held) : Owns table.create (table.next :: held) := by
  refine ⟨owns.used, owns.opened.cons _, List.nodup_cons.mpr ⟨?_, owns.distinct⟩, ?_⟩
  · exact fun member => Nat.lt_irrefl _ (owns.given _ member)
  · intro handle member
    rcases List.mem_cons.mp member with rfl | before
    · exact Nat.lt_succ_self _
    · exact Nat.lt_succ_of_lt (owns.given handle before)

theorem close (owns : Owns table (handle :: held)) : Owns (table.close handle) held := by
  have member : handle ∈ table.opened := owns.opened.mem_iff.mpr List.mem_cons_self
  unfold HandleTable.close
  rw [if_pos member]
  refine ⟨owns.used, ?_, owns.distinct.of_cons, fun other known =>
    owns.given other (List.mem_cons_of_mem _ known)⟩
  have erased := owns.opened.erase handle
  rwa [List.erase_cons_head] at erased

/-- A handle that is held may be used. -/
theorem uses (owns : Owns table held) (member : handle ∈ held) : table.uses handle = table :=
  if_pos (owns.opened.mem_iff.mpr member)

/-- A handle that is given out next is held by nobody. -/
theorem fresh (owns : Owns table held) (member : handle ∈ held) : handle ≠ table.next :=
  Nat.ne_of_lt (owns.given handle member)

end Owns

end AxeVoice.Foundation
