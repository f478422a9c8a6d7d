import AxeVoice.Native.Ingress

/-!
# The queue of registration commands

Other threads ask the owner of the event loop for a registration, or for its
end.  A cancellation and an overflow close the queue for the generation it
serves and drop what was waiting.  The mutex makes every operation one step.
-/

namespace AxeVoice.Native

open AxeVoice.Sip

inductive RegistrationCommandKind where
  | submitSelectedAccount
  | cancel
  deriving DecidableEq, Repr

structure RegistrationCommand where
  kind : RegistrationCommandKind := .cancel
  generation : UInt64 := 0
  timeoutMs : UInt32 := 0
  deriving DecidableEq, Repr

structure RegistrationBatch where
  commands : List RegistrationCommand := []
  generation : UInt64 := 0
  revision : UInt64 := 0
  overflow : Bool := false
  deriving DecidableEq, Repr

/-- The entries are those up to the size. -/
structure RegistrationCommandQueue where
  entries : List RegistrationCommand := []
  generation : UInt64 := 0
  lastGeneration : UInt64 := 0
  revision : UInt64 := 0
  opened : Bool := false
  overflow : Bool := false
  deriving DecidableEq, Repr

/-- What becomes of a command that another thread asks for. -/
inductive Enqueued where
  | accepted
  | refused
  /-- The queue was full, and is closed for it. -/
  | overflowed
  deriving DecidableEq, Repr

namespace RegistrationCommandQueue

def capacity : ℕ := 16

def kMinTimeoutMs : UInt32 := 1000

def kMaxTimeoutMs : UInt32 := 120000

def beginGeneration (queue : RegistrationCommandQueue) : UInt64 × RegistrationCommandQueue :=
  if queue.opened || !queue.entries.isEmpty || queue.overflow ||
      queue.lastGeneration = uint64Max then
    (0, queue)
  else
    (queue.lastGeneration + 1,
      { queue with
        lastGeneration := queue.lastGeneration + 1
        generation := queue.lastGeneration + 1
        opened := true })

def enqueue (queue : RegistrationCommandQueue) (command : RegistrationCommand) :
    Enqueued × RegistrationCommandQueue :=
  if !queue.opened || command.generation = 0 || command.generation ≠ queue.generation ||
      queue.overflow then
    (.refused, queue)
  else if command.kind = .cancel then
    -- priority even over a full queue: no older submission may run any more
    (.accepted,
      { queue with entries := [command], opened := false, revision := queue.revision + 1 })
  else if queue.entries.length = capacity then
    (.overflowed,
      { queue with
        entries := [], opened := false, overflow := true, revision := queue.revision + 1 })
  else (.accepted, { queue with entries := queue.entries ++ [command] })

def submit (queue : RegistrationCommandQueue) (generation : UInt64) (timeoutMs : UInt32) :
    Enqueued × RegistrationCommandQueue :=
  if timeoutMs < kMinTimeoutMs || timeoutMs > kMaxTimeoutMs then (.refused, queue)
  else queue.enqueue ⟨.submitSelectedAccount, generation, timeoutMs⟩

def cancel (queue : RegistrationCommandQueue) (generation : UInt64) :
    Enqueued × RegistrationCommandQueue :=
  queue.enqueue ⟨.cancel, generation, 0⟩

def drain (queue : RegistrationCommandQueue) (expectedGeneration : UInt64) :
    RegistrationBatch × RegistrationCommandQueue :=
  if expectedGeneration = 0 || queue.generation ≠ expectedGeneration then ({}, queue)
  else if !queue.opened && queue.entries.isEmpty && !queue.overflow then ({}, queue)
  else
    ({ commands := if queue.overflow then [] else queue.entries
       generation := queue.generation
       revision := queue.revision
       overflow := queue.overflow },
      { queue with entries := [], overflow := false })

def stillAdmitted (queue : RegistrationCommandQueue) (batch : RegistrationBatch) : Bool :=
  batch.generation ≠ 0 && batch.generation = queue.generation &&
    batch.revision = queue.revision && queue.opened && !queue.overflow

def invalidate (queue : RegistrationCommandQueue) : RegistrationCommandQueue :=
  { queue with opened := false, entries := [], overflow := false, revision := queue.revision + 1 }

/-- The queue will serve this generation no more. -/
structure Closed (queue : RegistrationCommandQueue) (generation : UInt64) : Prop where
  begun : generation ≤ queue.lastGeneration
  shut : queue.generation = generation → queue.opened = false

/-- What holds of the queue between operations. -/
structure Sound (queue : RegistrationCommandQueue) : Prop where
  last : queue.generation ≤ queue.lastGeneration
  /-- Nothing waits behind an overflow. -/
  overflown : queue.overflow = true → queue.entries = []

theorem sound_initial : Sound {} :=
  ⟨UInt64.le_refl _, nofun⟩

theorem enqueue_refused {queue : RegistrationCommandQueue} {command : RegistrationCommand}
    (closed : queue.Closed command.generation) : queue.enqueue command = (.refused, queue) := by
  unfold enqueue
  split
  · rfl
  · next open_ =>
      simp only [Bool.or_eq_true, Bool.not_eq_true', decide_eq_true_eq, not_or, not_not,
        Bool.not_eq_false] at open_
      obtain ⟨⟨⟨opened, _⟩, same⟩, _⟩ := open_
      rw [closed.shut same.symm] at opened
      cases opened

/-- A submission or a cancellation leaves the generations alone and reopens nothing. -/
structure QueueKeeps (before after : RegistrationCommandQueue) : Prop where
  generation : after.generation = before.generation
  lastGeneration : after.lastGeneration = before.lastGeneration
  opened : after.opened = true → before.opened = true

theorem enqueue_keeps (queue : RegistrationCommandQueue) (command : RegistrationCommand) :
    QueueKeeps queue (queue.enqueue command).2 := by
  unfold enqueue
  split
  · exact ⟨rfl, rfl, id⟩
  · split
    · exact ⟨rfl, rfl, nofun⟩
    · split
      · exact ⟨rfl, rfl, nofun⟩
      · exact ⟨rfl, rfl, id⟩

theorem enqueue_sound {queue : RegistrationCommandQueue} (sound : queue.Sound)
    (command : RegistrationCommand) : (queue.enqueue command).2.Sound := by
  unfold enqueue
  split
  · exact sound
  · next open_ =>
      split
      · next cancel =>
          refine ⟨sound.last, fun overflow => ?_⟩
          simp only [Bool.or_eq_true, not_or] at open_
          exact absurd overflow open_.2
      · split
        · exact ⟨sound.last, fun _ => rfl⟩
        · refine ⟨sound.last, fun overflow => ?_⟩
          simp only [Bool.or_eq_true, not_or] at open_
          exact absurd overflow open_.2

theorem beginGeneration_sound {queue : RegistrationCommandQueue} (sound : queue.Sound) :
    queue.beginGeneration.2.Sound := by
  unfold beginGeneration
  split
  · exact sound
  · exact ⟨UInt64.le_refl _, sound.overflown⟩

/-- A generation that begins is the last one, and above those before it. -/
theorem beginGeneration_begun {queue : RegistrationCommandQueue}
    (begun : queue.beginGeneration.1 ≠ 0) :
    queue.beginGeneration.2.generation = queue.beginGeneration.1 ∧
      queue.beginGeneration.2.generation = queue.beginGeneration.2.lastGeneration ∧
      queue.lastGeneration < queue.beginGeneration.1 := by
  rw [beginGeneration] at begun ⊢
  split at begun
  · exact absurd rfl begun
  · next free =>
      rw [if_neg free]
      simp only [Bool.or_eq_true, decide_eq_true_eq, not_or] at free
      have room : queue.lastGeneration ≠ uint64Max := free.2
      have grows : queue.lastGeneration < queue.lastGeneration + 1 := by grind
      exact ⟨rfl, rfl, grows⟩

theorem drain_sound {queue : RegistrationCommandQueue} (sound : queue.Sound)
    (generation : UInt64) : (queue.drain generation).2.Sound := by
  unfold drain
  split
  · exact sound
  · split
    · exact sound
    · exact ⟨sound.last, nofun⟩

theorem invalidate_sound {queue : RegistrationCommandQueue} (sound : queue.Sound) :
    queue.invalidate.Sound :=
  ⟨sound.last, nofun⟩

theorem drain_keeps (queue : RegistrationCommandQueue) (generation : UInt64) :
    QueueKeeps queue (queue.drain generation).2 := by
  unfold drain
  split
  · exact ⟨rfl, rfl, id⟩
  · split <;> exact ⟨rfl, rfl, id⟩

/-- What a drain takes: nothing, or all that waits. -/
inductive Drained (queue : RegistrationCommandQueue) :
    RegistrationBatch → RegistrationCommandQueue → Prop
  | stale : Drained queue {} queue
  | taken {batch : RegistrationBatch} {after : RegistrationCommandQueue}
      (nonzero : batch.generation ≠ 0) (generation : batch.generation = queue.generation)
      (commands : batch.commands = queue.entries) (emptied : after.entries = []) :
      Drained queue batch after

theorem drain_drained {queue : RegistrationCommandQueue} (sound : queue.Sound)
    (generation : UInt64) :
    Drained queue (queue.drain generation).1 (queue.drain generation).2 := by
  unfold drain
  split
  · exact .stale
  · next current =>
      split
      · exact .stale
      · simp only [Bool.or_eq_true, decide_eq_true_eq, not_or, not_not] at current
        have nonzero : queue.generation ≠ 0 := current.2 ▸ current.1
        refine .taken nonzero rfl ?_ rfl
        dsimp only
        split
        · next overflow => exact (sound.overflown overflow).symm
        · rfl

theorem Drained.generation_eq {queue after : RegistrationCommandQueue} {batch : RegistrationBatch}
    (drained : Drained queue batch after) :
    batch.generation = 0 ∨ batch.generation = queue.generation := by
  cases drained with
  | stale => exact .inl rfl
  | taken nonzero generation => exact .inr generation

theorem Drained.commands_eq {queue after : RegistrationCommandQueue} {batch : RegistrationBatch}
    (drained : Drained queue batch after) :
    batch.commands = [] ∨ batch.commands = queue.entries := by
  cases drained with
  | stale => exact .inl rfl
  | taken nonzero generation commands => exact .inr commands

/-- A closed generation stays closed when another one begins. -/
theorem Closed.begin {queue : RegistrationCommandQueue} {generation : UInt64}
    (closed : queue.Closed generation) : queue.beginGeneration.2.Closed generation := by
  unfold beginGeneration
  split
  · exact closed
  · next free =>
      simp only [Bool.or_eq_true, decide_eq_true_eq, not_or] at free
      have grows : queue.lastGeneration < queue.lastGeneration + 1 := by
        have room : queue.lastGeneration ≠ uint64Max := free.2
        grind
      have newer := UInt64.lt_of_le_of_lt closed.begun grows
      refine ⟨UInt64.le_of_lt newer, fun same => ?_⟩
      rw [← same] at newer
      exact absurd newer (UInt64.lt_irrefl _)

theorem Closed.keep {queue after : RegistrationCommandQueue} {generation : UInt64}
    (closed : queue.Closed generation) (keeps : QueueKeeps queue after) :
    after.Closed generation := by
  refine ⟨keeps.lastGeneration ▸ closed.begun, fun same => ?_⟩
  by_contra open_
  have before := keeps.opened (by simpa using open_)
  rw [closed.shut (keeps.generation.symm.trans same)] at before
  cases before

end RegistrationCommandQueue

end AxeVoice.Native
