import Mathlib.Logic.Basic

/-!
# Computations whose allocations may throw

A computation on a state that allocates memory.  What lies ahead of it is a list
of faults, one for each allocation; an allocation that meets a fault throws, and
a throw takes nothing back that was written before it.  A computation is strong
where it throws before it writes.
-/

namespace AxeVoice.Foundation

universe u v w

/-- The value unless it threw, the state that is left, and the faults that still lie ahead. -/
def Throwing (σ : Type u) (α : Type v) : Type (max u v) :=
  σ → List Bool → Option α × σ × List Bool

namespace Throwing

variable {σ : Type u} {α : Type v} {β : Type v}

protected def pure (value : α) : Throwing σ α := fun state faults => (some value, state, faults)

protected def bind (body : Throwing σ α) (next : α → Throwing σ β) : Throwing σ β :=
  fun state faults =>
    match body state faults with
    | (some value, after, rest) => next value after rest
    | (none, after, rest) => (none, after, rest)

instance : Monad (Throwing σ) where
  pure := Throwing.pure
  bind := Throwing.bind

/-- An allocation; it succeeds where no fault lies ahead. -/
def allocate : Throwing σ PUnit := fun state faults =>
  match faults with
  | [] => (some ⟨⟩, state, [])
  | fault :: rest => (if fault then none else some ⟨⟩, state, rest)

def read : Throwing σ σ := fun state faults => (some state, state, faults)

def write (change : σ → σ) : Throwing σ PUnit := fun state faults => (some ⟨⟩, change state, faults)

/-- The body with a handler for whatever it throws. -/
def orElse (body : Throwing σ α) (recovered : α) (state : σ) (faults : List Bool) : α × σ :=
  match body state faults with
  | (some value, after, _) => (value, after)
  | (none, after, _) => (recovered, after)

structure Nothrow (body : Throwing σ α) (state : σ) (value : α) (after : σ) : Prop where
  runs : ∀ faults, body state faults = (some value, after, faults)

theorem Nothrow.pure (state : σ) (value : α) : Nothrow (Pure.pure value) state value state :=
  ⟨fun _ => rfl⟩

theorem Nothrow.read (state : σ) : Nothrow read state state state := ⟨fun _ => rfl⟩

theorem Nothrow.write (change : σ → σ) (state : σ) :
    Nothrow (write change) state ⟨⟩ (change state) := ⟨fun _ => rfl⟩

theorem bind_eq (body : Throwing σ α) (next : α → Throwing σ β) (state : σ) (faults : List Bool) :
    (body >>= next) state faults = Throwing.bind body next state faults := rfl

theorem Nothrow.bind {body : Throwing σ α} {next : α → Throwing σ β} {state between after : σ}
    {value : α} {result : β} (first : Nothrow body state value between)
    (second : Nothrow (next value) between result after) :
    Nothrow (body >>= next) state result after := by
  constructor
  intro faults
  rw [bind_eq, Throwing.bind, first.runs faults]
  exact second.runs faults

/-- A write in front of a computation that does not throw. -/
theorem Nothrow.written {next : PUnit → Throwing σ β} {change : σ → σ} {state after : σ}
    {result : β} (second : Nothrow (next ⟨⟩) (change state) result after) :
    Nothrow (Throwing.write change >>= next) state result after :=
  (Nothrow.write change state).bind second

/-- It gives this value and state, or it throws and leaves the state as it was. -/
structure Strong (body : Throwing σ α) (state : σ) (value : α) (after : σ) : Prop where
  atomic : ∀ faults, (∃ rest, body state faults = (none, state, rest)) ∨
    ∃ rest, body state faults = (some value, after, rest)
  quiet : body state [] = (some value, after, [])

theorem Nothrow.strong {body : Throwing σ α} {state after : σ} {value : α}
    (runs : Nothrow body state value after) : Strong body state value after :=
  ⟨fun faults => .inr ⟨faults, runs.runs faults⟩, runs.runs []⟩

theorem Strong.pure (state : σ) (value : α) : Strong (Pure.pure value) state value state :=
  (Nothrow.pure state value).strong

theorem Strong.allocate (state : σ) : Strong allocate state ⟨⟩ state := by
  constructor
  · intro faults
    cases faults with
    | nil => exact .inr ⟨[], rfl⟩
    | cons fault rest =>
        cases fault with
        | false => exact .inr ⟨rest, rfl⟩
        | true => exact .inl ⟨rest, rfl⟩
  · rfl

/-- What comes first writes nothing, so a throw of what follows leaves the state, too. -/
theorem Strong.bind {body : Throwing σ α} {next : α → Throwing σ β} {state after : σ}
    {value : α} {result : β} (first : Strong body state value state)
    (second : Strong (next value) state result after) :
    Strong (body >>= next) state result after := by
  constructor
  · intro faults
    rw [bind_eq, Throwing.bind]
    rcases first.atomic faults with ⟨rest, threw⟩ | ⟨rest, gave⟩
    · rw [threw]
      exact .inl ⟨rest, rfl⟩
    · rw [gave]
      exact second.atomic rest
  · rw [bind_eq, Throwing.bind, first.quiet]
    exact second.quiet

/-- An allocation in front of a strong computation. -/
theorem Strong.allocated {next : PUnit → Throwing σ β} {state after : σ} {result : β}
    (second : Strong (next ⟨⟩) state result after) :
    Strong (Throwing.allocate >>= next) state result after :=
  (Strong.allocate state).bind second

/-- Behind the handler: the answer of the body, or the handler's with the state as it was. -/
theorem Strong.orElse {body : Throwing σ α} {state after : σ} {value : α}
    (strong : Strong body state value after) (recovered : α) (faults : List Bool) :
    body.orElse recovered state faults = (recovered, state) ∨
      body.orElse recovered state faults = (value, after) := by
  rw [Throwing.orElse]
  rcases strong.atomic faults with ⟨rest, threw⟩ | ⟨rest, gave⟩
  · rw [threw]
    exact .inl rfl
  · rw [gave]
    exact .inr rfl

end Throwing

end AxeVoice.Foundation
