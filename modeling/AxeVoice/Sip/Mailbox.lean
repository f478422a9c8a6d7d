import AxeVoice.Sip.Reducer

/-!
# The event mailbox

The bounded queue between the native callback thread and the user interface.
Every operation runs under the mailbox mutex and is one atomic step.  A session
is a fresh generation number; an event that does not fit drops the whole queued
history of its session, so that no partial history is ever delivered.
-/

namespace AxeVoice.Sip

def kCapacity : Nat := 32

/-- What one drain hands over: the first `size` of the `events`. -/
structure Batch where
  events : Vector BaresipNativeEvent kCapacity := Vector.replicate kCapacity default
  size : Nat := 0
  session : UInt64 := 0
  overflow : Bool := false
  deriving DecidableEq

/-- The events a consumer of the batch reads, in order. -/
def Batch.delivered (batch : Batch) : List BaresipNativeEvent :=
  batch.events.toList.take batch.size

/-- The entries form a ring: `pending` of them, starting at `first`. -/
structure BaresipEventMailbox where
  entries : Vector BaresipNativeEvent kCapacity := Vector.replicate kCapacity default
  pending : Nat := 0
  first : Nat := 0
  generation : UInt64 := 0
  session : UInt64 := 0
  overflow : Bool := false
  pending_le : pending ≤ kCapacity := by decide

instance : Inhabited BaresipEventMailbox := ⟨{}⟩

namespace BaresipEventMailbox

/-- The slot of the ring at this position, counted around it. -/
def slot (position : Nat) : Fin kCapacity :=
  ⟨position % kCapacity, Nat.mod_lt _ (by decide)⟩

/-- The entry `offset` places after the oldest one. -/
def entryAt (mailbox : BaresipEventMailbox) (offset : Nat) : BaresipNativeEvent :=
  mailbox.entries.get (slot (mailbox.first + offset))

/-- The entries with one of them overwritten. -/
def entriesWith (mailbox : BaresipEventMailbox) (position : Fin kCapacity)
    (event : BaresipNativeEvent) : Vector BaresipNativeEvent kCapacity :=
  mailbox.entries.set position.val event position.isLt

def beginSession (mailbox : BaresipEventMailbox) : UInt64 × BaresipEventMailbox :=
  if mailbox.generation = uint64Max then
    (0, { mailbox with session := 0, overflow := true, pending := 0, pending_le := by decide })
  else
    let generation := mailbox.generation + 1
    (generation, { mailbox with
      generation := generation, session := generation, pending := 0, first := 0
      overflow := false, pending_le := by decide })

def invalidateSession (mailbox : BaresipEventMailbox) : BaresipEventMailbox :=
  { mailbox with session := 0, pending := 0, first := 0, overflow := false, pending_le := by decide }

def enqueue (mailbox : BaresipEventMailbox) (event : BaresipNativeEvent) :
    Bool × BaresipEventMailbox :=
  if mailbox.session = 0 ∨ event.session ≠ mailbox.session ∨ mailbox.overflow then
    (false, mailbox)
  else if full : mailbox.pending = kCapacity then
    (false, { mailbox with pending := 0, first := 0, overflow := true, pending_le := by decide })
  else
    (true, { mailbox with
      entries := mailbox.entriesWith (slot (mailbox.first + mailbox.pending)) event
      pending := mailbox.pending + 1
      pending_le := Nat.lt_of_le_of_ne mailbox.pending_le full })

def drain (mailbox : BaresipEventMailbox) : Batch × BaresipEventMailbox :=
  let copied : Vector BaresipNativeEvent kCapacity :=
    Vector.ofFn fun i => if i.val < mailbox.pending then mailbox.entryAt i.val else default
  let batch : Batch :=
    if mailbox.overflow then { session := mailbox.session, overflow := mailbox.overflow }
    else
      { events := copied, size := mailbox.pending
        session := mailbox.session, overflow := mailbox.overflow }
  (batch, { mailbox with first := 0, pending := 0, pending_le := by decide })

/-- The events that the next drain of an intact session delivers. -/
def queued (mailbox : BaresipEventMailbox) : List BaresipNativeEvent :=
  (List.range mailbox.pending).map mailbox.entryAt

theorem queued_eq_nil {mailbox : BaresipEventMailbox} (empty : mailbox.pending = 0) :
    mailbox.queued = [] := by
  simp [queued, empty]

theorem queued_length (mailbox : BaresipEventMailbox) : mailbox.queued.length = mailbox.pending := by
  simp [queued]

theorem entryAt_last (mailbox : BaresipEventMailbox) (event : BaresipNativeEvent) :
    (mailbox.entriesWith (slot (mailbox.first + mailbox.pending)) event).get
      (slot (mailbox.first + mailbox.pending)) = event :=
  Vector.getElem_set_self _

/-- Writing behind the last entry touches none of the entries before it. -/
theorem entryAt_of_lt (mailbox : BaresipEventMailbox) (event : BaresipNativeEvent)
    (room : mailbox.pending < kCapacity) {offset : Nat} (before : offset < mailbox.pending) :
    (mailbox.entriesWith (slot (mailbox.first + mailbox.pending)) event).get
      (slot (mailbox.first + offset)) = mailbox.entryAt offset := by
  have apart : (slot (mailbox.first + mailbox.pending)).val ≠ (slot (mailbox.first + offset)).val := by
    simp only [slot, kCapacity] at room ⊢
    omega
  exact Vector.getElem_set_ne _ _ apart

/-- Everything an enqueue can do. -/
theorem enqueue_cases (mailbox : BaresipEventMailbox) (event : BaresipNativeEvent) :
    mailbox.enqueue event = (false, mailbox) ∨
    (mailbox.session ≠ 0 ∧ event.session = mailbox.session ∧
      (mailbox.enqueue event).1 = false ∧ (mailbox.enqueue event).2.overflow = true ∧
      (mailbox.enqueue event).2.session = mailbox.session ∧
      (mailbox.enqueue event).2.generation = mailbox.generation ∧
      (mailbox.enqueue event).2.queued = []) ∨
    (mailbox.session ≠ 0 ∧ event.session = mailbox.session ∧ mailbox.overflow = false ∧
      (mailbox.enqueue event).1 = true ∧ (mailbox.enqueue event).2.overflow = false ∧
      (mailbox.enqueue event).2.session = mailbox.session ∧
      (mailbox.enqueue event).2.generation = mailbox.generation ∧
      (mailbox.enqueue event).2.queued = mailbox.queued ++ [event]) := by
  unfold enqueue
  split
  · exact .inl rfl
  next admitted =>
  simp only [not_or, ne_eq, not_not, Bool.not_eq_true] at admitted
  obtain ⟨live, same, intact⟩ := admitted
  split
  · exact .inr (.inl ⟨live, same, rfl, rfl, rfl, rfl, rfl⟩)
  next notFull =>
  have room : mailbox.pending < kCapacity := Nat.lt_of_le_of_ne mailbox.pending_le notFull
  refine .inr (.inr ⟨live, same, intact, rfl, intact, rfl, rfl, ?_⟩)
  unfold queued
  simp only [List.range_succ, List.map_append, List.map_cons, List.map_nil]
  congr 1
  · apply List.map_congr_left
    intro offset member
    exact entryAt_of_lt mailbox event room (List.mem_range.mp member)
  · exact congrArg (fun entry => [entry]) (entryAt_last mailbox event)

@[simp] theorem drain_session (mailbox : BaresipEventMailbox) :
    mailbox.drain.1.session = mailbox.session := by
  unfold drain
  cases mailbox.overflow <;> rfl

@[simp] theorem drain_overflow (mailbox : BaresipEventMailbox) :
    mailbox.drain.1.overflow = mailbox.overflow := by
  unfold drain
  cases mailbox.overflow <;> rfl

/-- A drain of an intact session delivers exactly the queue. -/
theorem drain_delivered {mailbox : BaresipEventMailbox} (intact : mailbox.overflow = false) :
    mailbox.drain.1.delivered = mailbox.queued := by
  have bound := mailbox.pending_le
  simp only [drain, intact, Bool.false_eq_true, if_false, Batch.delivered, queued]
  apply List.ext_getElem
  · simp [bound]
  · intro offset left right
    have inside : offset < mailbox.pending := by simpa using right
    simp [inside]

theorem drain_size_le (mailbox : BaresipEventMailbox) : mailbox.drain.1.size ≤ kCapacity := by
  unfold drain
  cases mailbox.overflow with
  | true => exact Nat.zero_le _
  | false => exact mailbox.pending_le

@[simp] theorem drain_queued (mailbox : BaresipEventMailbox) : mailbox.drain.2.queued = [] := rfl

@[simp] theorem drain_after_session (mailbox : BaresipEventMailbox) :
    mailbox.drain.2.session = mailbox.session := rfl

@[simp] theorem drain_after_generation (mailbox : BaresipEventMailbox) :
    mailbox.drain.2.generation = mailbox.generation := rfl

@[simp] theorem drain_after_overflow (mailbox : BaresipEventMailbox) :
    mailbox.drain.2.overflow = mailbox.overflow := rfl

/--
What one operation may do to the session: keep it, with an overflow that is not
taken back, end it, or begin one whose number was never issued.
-/
structure Advances (before after : BaresipEventMailbox) : Prop where
  issued : before.generation ≤ after.generation
  current : (after.session = before.session ∧ (before.overflow = true → after.overflow = true)) ∨
    after.session = 0 ∨ before.generation < after.session
  current_le : before.session ≤ before.generation → after.session ≤ after.generation

theorem advances_refl (mailbox : BaresipEventMailbox) : mailbox.Advances mailbox :=
  ⟨UInt64.le_refl _, .inl ⟨rfl, id⟩, id⟩

theorem beginSession_advances (mailbox : BaresipEventMailbox) :
    mailbox.Advances mailbox.beginSession.2 := by
  unfold beginSession
  split
  · exact ⟨UInt64.le_refl _, .inr (.inl rfl), fun _ => UInt64.zero_le⟩
  · next room =>
      have grows : mailbox.generation < mailbox.generation + 1 := by grind
      exact ⟨UInt64.le_of_lt grows, .inr (.inr grows), fun _ => UInt64.le_refl _⟩

/-- A session that begins has the next generation as its number. -/
theorem beginSession_issues {mailbox : BaresipEventMailbox} (begun : mailbox.beginSession.1 ≠ 0) :
    mailbox.generation < mailbox.beginSession.1 ∧
      mailbox.beginSession.2.generation = mailbox.beginSession.1 := by
  rw [beginSession] at begun ⊢
  split at begun
  · exact absurd rfl begun
  · next room =>
      rw [if_neg room]
      have grows : mailbox.generation < mailbox.generation + 1 := by grind
      exact ⟨grows, rfl⟩

theorem invalidateSession_advances (mailbox : BaresipEventMailbox) :
    mailbox.Advances mailbox.invalidateSession :=
  ⟨UInt64.le_refl _, .inr (.inl rfl), fun _ => UInt64.zero_le⟩

theorem enqueue_advances (mailbox : BaresipEventMailbox) (event : BaresipNativeEvent) :
    mailbox.Advances (mailbox.enqueue event).2 := by
  unfold enqueue
  split
  · exact mailbox.advances_refl
  split
  · exact ⟨UInt64.le_refl _, .inl ⟨rfl, fun _ => rfl⟩, id⟩
  · exact ⟨UInt64.le_refl _, .inl ⟨rfl, id⟩, id⟩

end BaresipEventMailbox

end AxeVoice.Sip
