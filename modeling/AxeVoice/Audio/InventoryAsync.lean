import AxeVoice.Foundation.Reactive
import AxeVoice.Foundation.WideString

/-!
# The audio inventory in the background

A detached thread asks the drivers for the audio devices and reports when they
have answered, which may be after the inventory was asked for again, or after
the object is gone.  A generation counter tells what is still wanted.
-/

namespace AxeVoice.Audio

open AxeVoice.Foundation

inductive AudioInventoryError where
  | none
  | comInitializationFailed
  | enumeratorUnavailable
  | endpointQueryFailed
  deriving DecidableEq, Repr

structure AudioEndpoint (width : WCharWidth) where
  id : WString width
  name : WString width
  defaultCommunications : Bool := false
  defaultMultimedia : Bool := false
  deriving DecidableEq

structure AudioInventory (width : WCharWidth) where
  inputCount : UInt32 := 0
  outputCount : UInt32 := 0
  hasDefaultCommunicationsInput : Bool := false
  hasDefaultCommunicationsOutput : Bool := false
  inputDevices : List (AudioEndpoint width) := []
  outputDevices : List (AudioEndpoint width) := []
  error : AudioInventoryError := .none
  deriving DecidableEq

structure AudioInventoryAsyncSnapshot where
  generation : UInt64 := 0
  busy : Bool := false
  pending : Bool := false
  ready : Bool := false
  closed : Bool := false
  launchFailed : Bool := false
  deriving DecidableEq, Repr

/-- What the mutex guards; every operation below is one critical section of it. -/
structure AudioInventoryAsync (width : WCharWidth) where
  status : AudioInventoryAsyncSnapshot := {}
  result : AudioInventory width := {}

variable {width : WCharWidth}

namespace AudioInventoryAsync

def invalidate (state : AudioInventoryAsync width) : Bool × AudioInventoryAsync width :=
  let status := { state.status with pending := false, ready := false }
  if status.generation = 0xFFFFFFFFFFFFFFFF then
    (false, { status := { status with closed := true }, result := {} })
  else (true, { status := { status with generation := status.generation + 1 }, result := {} })

def request (state : AudioInventoryAsync width) : Bool × AudioInventoryAsync width :=
  if state.status.closed then (false, state)
  else
    let (invalidated, state) := state.invalidate
    if !invalidated then (false, state)
    else (true, { state with status := { state.status with pending := true } })

/-- The argument tells whether the thread can be constructed; what is launched keeps the generation. -/
def startPending (state : AudioInventoryAsync width) (constructed : Bool) :
    Option UInt64 × AudioInventoryAsync width :=
  if state.status.closed || state.status.busy || !state.status.pending then (none, state)
  else if !constructed then
    (none, { state with status := { state.status with busy := false, launchFailed := true } })
  else
    (some state.status.generation,
      { state with
        status := { state.status with busy := true, pending := false, launchFailed := false } })

/-- The end of the thread that was launched in this generation. -/
def completed (state : AudioInventoryAsync width) (generation : UInt64)
    (result : AudioInventory width) : Bool × AudioInventoryAsync width :=
  let status := { state.status with busy := false }
  if !status.closed && status.generation = generation then
    (true, { status := { status with ready := true }, result := result })
  else (false, { state with status := status })

/-- A move leaves a valid result behind that nothing else is known of. -/
def take (state : AudioInventoryAsync width) (movedFrom : AudioInventory width) :
    Option (AudioInventory width) × AudioInventoryAsync width :=
  if state.status.closed || !state.status.ready then (none, state)
  else (some state.result,
    { status := { state.status with ready := false }, result := movedFrom })

def cancel (state : AudioInventoryAsync width) : AudioInventoryAsync width :=
  if state.status.closed then state else state.invalidate.2

/-- Also what the destructor does. -/
def close (state : AudioInventoryAsync width) : AudioInventoryAsync width :=
  let state := state.cancel
  { state with status := { state.status with closed := true } }

def snapshot (state : AudioInventoryAsync width) : AudioInventoryAsyncSnapshot := state.status

end AudioInventoryAsync

/-- A detached thread, from its launch to the end of its last critical section. -/
structure ProbeThread (width : WCharWidth) where
  id : ℕ
  generation : UInt64
  /-- What `probe` has returned, or what stands for its exception. -/
  result : Option (AudioInventory width) := none

/-- The object and its threads, which may outlive it. -/
structure InventoryHost (width : WCharWidth) where
  state : AudioInventoryAsync width := {}
  threads : List (ProbeThread width) := []
  launches : ℕ := 0

inductive InventoryMove (width : WCharWidth) where
  | request
  | startPending (constructed : Bool)
  | take (movedFrom : AudioInventory width)
  | cancel
  | close
  /-- The probe of a thread returns, or throws where there is no answer. -/
  | probed (thread : ℕ) (answer : Option (AudioInventory width))
  /-- A thread whose probe has ended gets the mutex. -/
  | completed (thread : ℕ)

inductive InventoryObserved (width : WCharWidth) where
  | nothing
  | requested (accepted : Bool)
  | started (thread : Option ℕ)
  | took (inventory : Option (AudioInventory width))
  | completed (thread : ℕ) (published : Bool)

/-- An exception of the probe becomes an error of the inventory. -/
def probeResult (answer : Option (AudioInventory width)) : AudioInventory width :=
  answer.getD { error := .endpointQueryFailed }

def ProbeThread.probed (thread : ProbeThread width) (id : ℕ)
    (answer : Option (AudioInventory width)) : ProbeThread width :=
  if thread.id = id && thread.result.isNone then { thread with result := some (probeResult answer) }
  else thread

def inventoryStep (host : InventoryHost width) :
    InventoryMove width → InventoryObserved width × InventoryHost width
  | .request =>
      let (accepted, state) := host.state.request
      (.requested accepted, { host with state := state })
  | .startPending constructed =>
      let (generation, state) := host.state.startPending constructed
      match generation with
      | none => (.started none, { host with state := state })
      | some generation =>
          (.started (some host.launches),
            { state := state
              threads := host.threads ++ [{ id := host.launches, generation := generation }]
              launches := host.launches + 1 })
  | .take movedFrom =>
      let (inventory, state) := host.state.take movedFrom
      (.took inventory, { host with state := state })
  | .cancel => (.nothing, { host with state := host.state.cancel })
  | .close => (.nothing, { host with state := host.state.close })
  | .probed id answer =>
      (.nothing, { host with threads := host.threads.map fun thread => thread.probed id answer })
  | .completed id =>
      match host.threads.find? fun thread => thread.id = id && thread.result.isSome with
      | some ⟨_, generation, some result⟩ =>
          let (published, state) := host.state.completed generation result
          (.completed id published,
            { host with state := state, threads := host.threads.filter fun thread => thread.id ≠ id })
      | _ => (.nothing, host)

abbrev InventoryStage (width : WCharWidth) :=
  Stage (InventoryHost width) (InventoryMove width) (InventoryObserved width)

inductive RequestPhase (width : WCharWidth) where
  | pending
  | probing (thread : ℕ)
  | probed (thread : ℕ) (inventory : AudioInventory width)
  | ready (thread : ℕ) (inventory : AudioInventory width)

def ProbeThread.phase (thread : ProbeThread width) : RequestPhase width :=
  match thread.result with
  | none => .probing thread.id
  | some inventory => .probed thread.id inventory

/-- After this stage no earlier request is wanted. -/
def Replaces (stage : InventoryStage width) : Prop :=
  stage.input = .request ∨ stage.input = .cancel ∨ stage.input = .close

/-- How far a request of this history has come that no later stage of it replaces. -/
inductive Course : List (InventoryStage width) → RequestPhase width → Prop
  | requested (older : List (InventoryStage width)) {stage : InventoryStage width}
      (accepted : stage.output = .requested true) : Course (older ++ [stage]) .pending
  | launched {history : List (InventoryStage width)} {stage : InventoryStage width} {thread : ℕ}
      (course : Course history .pending) (started : stage.output = .started (some thread)) :
      Course (history ++ [stage]) (.probing thread)
  | probed {history : List (InventoryStage width)} {stage : InventoryStage width} {thread : ℕ}
      {answer : Option (AudioInventory width)} (course : Course history (.probing thread))
      (answers : stage.input = .probed thread answer) :
      Course (history ++ [stage]) (.probed thread (probeResult answer))
  | published {history : List (InventoryStage width)} {stage : InventoryStage width} {thread : ℕ}
      {inventory : AudioInventory width} (course : Course history (.probed thread inventory))
      (completes : stage.output = .completed thread true) :
      Course (history ++ [stage]) (.ready thread inventory)
  | waits {history : List (InventoryStage width)} {stage : InventoryStage width}
      {phase : RequestPhase width} (course : Course history phase) (kept : ¬ Replaces stage) :
      Course (history ++ [stage]) phase

/-- The flags, the threads and their generations fit together. -/
structure InventoryHost.Sound (host : InventoryHost width) : Prop where
  quiet : host.state.status.closed = true →
    host.state.status.pending = false ∧ host.state.status.ready = false
  exclusive : host.state.status.ready = true → host.state.status.pending = false
  alone : host.threads = [] ∧ host.state.status.busy = false ∨
    ∃ thread, host.threads = [thread] ∧ host.state.status.busy = true
  past : ∀ thread ∈ host.threads, thread.generation ≤ host.state.status.generation
  /-- What waits or is ready was not launched in a thread that is still under way. -/
  settled : host.state.status.pending = true ∨ host.state.status.ready = true →
    ∀ thread ∈ host.threads, thread.generation ≠ host.state.status.generation

/-- What the flags and the threads of this generation say of the history. -/
structure Traced (history : List (InventoryStage width)) (host : InventoryHost width) : Prop where
  sound : host.Sound
  pending : host.state.status.pending = true → Course history .pending
  probing : ∀ thread ∈ host.threads, thread.generation = host.state.status.generation →
    host.state.status.closed = false → Course history thread.phase
  ready : host.state.status.ready = true → ∃ thread, Course history (.ready thread host.state.result)

theorem traced_initial : Traced [] ({} : InventoryHost width) :=
  ⟨⟨nofun, nofun, .inl ⟨rfl, rfl⟩, fun _ member => absurd member List.not_mem_nil, fun _ _ member =>
      absurd member List.not_mem_nil⟩, nofun, fun _ member => absurd member List.not_mem_nil, nofun⟩

/-- What a stage that replaces a request makes of the status. -/
structure Renewed (before after : AudioInventoryAsyncSnapshot) : Prop where
  busy : after.busy = before.busy
  rises : before.generation ≤ after.generation
  newer : after.closed = true ∨ before.generation < after.generation
  ready : after.ready = false
  quiet : after.closed = true → after.pending = false

theorem invalidate_renewed (state : AudioInventoryAsync width) :
    Renewed state.status state.invalidate.2.status ∧
      state.invalidate.2.status.pending = false ∧
        (state.invalidate.1 = true → state.invalidate.2.status.closed = state.status.closed) := by
  rw [AudioInventoryAsync.invalidate]
  dsimp only
  split
  · exact ⟨⟨rfl, UInt64.le_refl _, .inl rfl, rfl, fun _ => rfl⟩, rfl, nofun⟩
  · next room =>
      have grows : state.status.generation < state.status.generation + 1 := by grind
      exact ⟨⟨rfl, UInt64.le_of_lt grows, .inr grows, rfl, fun _ => rfl⟩, rfl, fun _ => rfl⟩

/-- A closed object stays as it is. -/
theorem InventoryHost.Sound.renewed {host : InventoryHost width} (sound : host.Sound)
    (closed : host.state.status.closed = true) : Renewed host.state.status host.state.status :=
  ⟨rfl, UInt64.le_refl _, .inl closed, (sound.quiet closed).2, fun _ => (sound.quiet closed).1⟩

/-- Threads of an earlier request are of an earlier generation. -/
theorem InventoryHost.Sound.replaced {host : InventoryHost width} (sound : host.Sound)
    {state : AudioInventoryAsync width} (renewed : Renewed host.state.status state.status)
    {history : List (InventoryStage width)}
    (pending : state.status.pending = true → Course history .pending) :
    Traced history { host with state := state } := by
  have older : ∀ thread ∈ host.threads, state.status.closed = false →
      thread.generation ≠ state.status.generation := by
    rintro thread member open_ same
    rcases renewed.newer with closed | newer
    · cases open_.symm.trans closed
    · have past := sound.past thread member
      rw [same] at past
      exact absurd newer (UInt64.not_lt.mpr past)
  have unready {claim : Prop} (ready : state.status.ready = true) : claim := by
    cases renewed.ready.symm.trans ready
  refine ⟨⟨fun closed => ⟨renewed.quiet closed, renewed.ready⟩, unready, ?_, ?_, ?_⟩, pending,
    fun thread member same open_ => absurd same (older thread member open_), unready⟩
  · rw [renewed.busy]
    exact sound.alone
  · intro thread member
    exact UInt64.le_trans (sound.past thread member) renewed.rises
  · rintro (waiting | ready) thread member
    · refine older thread member ?_
      by_contra closed
      have idle := renewed.quiet (by simpa using closed)
      cases idle.symm.trans waiting
    · exact unready ready

theorem Traced.request {history : List (InventoryStage width)} {host : InventoryHost width}
    (traced : Traced history host) :
    Traced (history ++ [stageOf inventoryStep host .request]) (inventoryStep host .request).2 := by
  obtain ⟨renewed, idle, kept⟩ := invalidate_renewed host.state
  cases closed : host.state.status.closed with
  | true =>
      have same : inventoryStep host .request = (.requested false, host) := by
        simp [inventoryStep, AudioInventoryAsync.request, closed]
      rw [same]
      refine traced.sound.replaced (traced.sound.renewed closed) fun waiting => ?_
      cases (traced.sound.quiet closed).1.symm.trans waiting
  | false =>
      cases invalidated : host.state.invalidate.1 with
      | false =>
          have left : inventoryStep host .request =
              (.requested false, { host with state := host.state.invalidate.2 }) := by
            simp [inventoryStep, AudioInventoryAsync.request, closed, invalidated]
          rw [left]
          refine traced.sound.replaced renewed fun waiting => ?_
          cases idle.symm.trans waiting
      | true =>
          have left : inventoryStep host .request =
              (.requested true, { host with state :=
                { host.state.invalidate.2 with
                  status := { host.state.invalidate.2.status with pending := true } } }) := by
            simp [inventoryStep, AudioInventoryAsync.request, closed, invalidated]
          have accepted : (stageOf inventoryStep host .request).output = .requested true :=
            congrArg Prod.fst left
          have open_ : host.state.invalidate.2.status.closed = false :=
            (kept invalidated).trans closed
          rw [left]
          apply traced.sound.replaced
          · refine ⟨renewed.busy, renewed.rises, renewed.newer, renewed.ready, fun shut => ?_⟩
            cases open_.symm.trans shut
          · exact fun _ => .requested history accepted

theorem Traced.cancel {history : List (InventoryStage width)} {host : InventoryHost width}
    (traced : Traced history host) (later : List (InventoryStage width)) :
    Traced later { host with state := host.state.cancel } := by
  obtain ⟨renewed, idle, -⟩ := invalidate_renewed host.state
  rw [AudioInventoryAsync.cancel]
  split
  · next closed =>
      refine traced.sound.replaced (traced.sound.renewed closed) fun waiting => ?_
      cases (traced.sound.quiet closed).1.symm.trans waiting
  · refine traced.sound.replaced renewed fun waiting => ?_
    cases idle.symm.trans waiting

theorem Traced.close {history : List (InventoryStage width)} {host : InventoryHost width}
    (traced : Traced history host) (later : List (InventoryStage width)) :
    Traced later { host with state := host.state.close } := by
  obtain ⟨renewed, idle, -⟩ := invalidate_renewed host.state
  rw [AudioInventoryAsync.close, AudioInventoryAsync.cancel]
  split
  · next closed =>
      have waits := (traced.sound.quiet closed).1
      apply traced.sound.replaced
      · exact ⟨rfl, UInt64.le_refl _, .inl rfl, (traced.sound.quiet closed).2, fun _ => waits⟩
      · exact fun waiting => nomatch waits.symm.trans waiting
  · apply traced.sound.replaced
    · exact ⟨renewed.busy, renewed.rises, .inl rfl, renewed.ready, fun _ => idle⟩
    · exact fun waiting => nomatch idle.symm.trans waiting

/-- A stage that leaves the generation and the course of things as they are. -/
theorem Traced.waits {history : List (InventoryStage width)} {host after : InventoryHost width}
    (traced : Traced history host) {stage : InventoryStage width} (kept : ¬ Replaces stage)
    (sound : after.Sound) (generation : after.state.status.generation = host.state.status.generation)
    (closed : after.state.status.closed = host.state.status.closed)
    (pending : after.state.status.pending = true → host.state.status.pending = true)
    (threads : ∀ thread ∈ after.threads, thread ∈ host.threads)
    (ready : after.state.status.ready = true →
      host.state.status.ready = true ∧ after.state.result = host.state.result) :
    Traced (history ++ [stage]) after := by
  refine ⟨sound, fun waiting => .waits (traced.pending (pending waiting)) kept, ?_, ?_⟩
  · intro thread member same open_
    rw [generation] at same
    rw [closed] at open_
    exact .waits (traced.probing thread (threads thread member) same open_) kept
  · intro published
    obtain ⟨before, same⟩ := ready published
    obtain ⟨thread, course⟩ := traced.ready before
    rw [same]
    exact ⟨thread, .waits course kept⟩

theorem Traced.startPending {history : List (InventoryStage width)} {host : InventoryHost width}
    (traced : Traced history host) (constructed : Bool) :
    Traced (history ++ [stageOf inventoryStep host (.startPending constructed)])
      (inventoryStep host (.startPending constructed)).2 := by
  have kept : ¬ Replaces (stageOf inventoryStep host (.startPending constructed)) := by
    rintro (same | same | same) <;> cases same
  have sound := traced.sound
  by_cases refused : (host.state.status.closed || host.state.status.busy ||
      !host.state.status.pending) = true
  · have same : inventoryStep host (.startPending constructed) = (.started none, host) := by
      simp only [inventoryStep, AudioInventoryAsync.startPending, if_pos refused]
    rw [same]
    exact traced.waits kept sound rfl rfl id (fun _ => id) fun published => ⟨published, rfl⟩
  · simp only [Bool.or_eq_true, Bool.not_eq_true', not_or, Bool.not_eq_true,
      Bool.not_eq_false] at refused
    obtain ⟨⟨open_, free⟩, waiting⟩ := refused
    have alone : host.threads = [] := by
      rcases sound.alone with ⟨none_, -⟩ | ⟨thread, -, busy⟩
      · exact none_
      · cases free.symm.trans busy
    cases constructed with
    | false =>
        have failed : inventoryStep host (.startPending false) =
            (.started none, { host with state := { host.state with
              status := { host.state.status with busy := false, launchFailed := true } } }) := by
          simp [inventoryStep, AudioInventoryAsync.startPending, open_, free, waiting]
        rw [failed]
        apply traced.waits kept
        · exact ⟨sound.quiet, sound.exclusive, .inl ⟨alone, rfl⟩, sound.past, sound.settled⟩
        · rfl
        · rfl
        · exact id
        · exact fun _ => id
        · exact fun published => ⟨published, rfl⟩
    | true =>
        have launched : inventoryStep host (.startPending true) =
            (.started (some host.launches),
              { state := { host.state with status := { host.state.status with
                  busy := true, pending := false, launchFailed := false } }
                threads := [{ id := host.launches, generation := host.state.status.generation }]
                launches := host.launches + 1 }) := by
          simp [inventoryStep, AudioInventoryAsync.startPending, open_, free, waiting, alone]
        have started : (stageOf inventoryStep host (.startPending true)).output =
            .started (some host.launches) := congrArg Prod.fst launched
        have unready : host.state.status.ready = false := by
          by_contra ready
          have idle := sound.exclusive (by simpa using ready)
          cases idle.symm.trans waiting
        have unpublished {claim : Prop} (ready : host.state.status.ready = true) : claim := by
          cases unready.symm.trans ready
        rw [launched]
        refine ⟨⟨fun closed => ⟨rfl, unready⟩, fun _ => rfl, .inr ⟨_, rfl, rfl⟩, ?_, ?_⟩, nofun, ?_,
          unpublished⟩
        · intro thread member
          rw [List.mem_singleton.mp member]
          exact UInt64.le_refl _
        · rintro (idle | ready) thread member
          · cases idle
          · exact unpublished ready
        · intro thread member same _
          rw [List.mem_singleton.mp member]
          exact .launched (traced.pending waiting) started

theorem Traced.take {history : List (InventoryStage width)} {host : InventoryHost width}
    (traced : Traced history host) (movedFrom : AudioInventory width) :
    Traced (history ++ [stageOf inventoryStep host (.take movedFrom)])
      (inventoryStep host (.take movedFrom)).2 := by
  have kept : ¬ Replaces (stageOf inventoryStep host (.take movedFrom)) := by
    rintro (same | same | same) <;> cases same
  have sound := traced.sound
  unfold inventoryStep AudioInventoryAsync.take
  dsimp only
  split
  · exact traced.waits kept sound rfl rfl id (fun _ => id) fun published => ⟨published, rfl⟩
  · next published =>
      apply traced.waits kept
      · refine ⟨fun closed => ⟨(sound.quiet closed).1, rfl⟩, nofun, sound.alone, sound.past, ?_⟩
        rintro (waiting | ready)
        · exact sound.settled (.inl waiting)
        · cases ready
      · rfl
      · rfl
      · exact id
      · exact fun _ => id
      · exact nofun

/-- The one thread that there may be at a time. -/
theorem InventoryHost.Sound.thread {host : InventoryHost width} (sound : host.Sound)
    {thread : ProbeThread width} (member : thread ∈ host.threads) :
    host.threads = [thread] ∧ host.state.status.busy = true := by
  rcases sound.alone with ⟨none_, -⟩ | ⟨only, same, busy⟩
  · rw [none_] at member
    cases member
  · rw [same] at member
    rw [List.mem_singleton.mp member]
    exact ⟨same, busy⟩

@[simp] theorem ProbeThread.probed_generation (thread : ProbeThread width) (id : ℕ)
    (answer : Option (AudioInventory width)) :
    (thread.probed id answer).generation = thread.generation := by
  rw [ProbeThread.probed]
  split <;> rfl

theorem Traced.probed {history : List (InventoryStage width)} {host : InventoryHost width}
    (traced : Traced history host) (id : ℕ) (answer : Option (AudioInventory width)) :
    Traced (history ++ [stageOf inventoryStep host (.probed id answer)])
      (inventoryStep host (.probed id answer)).2 := by
  have kept : ¬ Replaces (stageOf inventoryStep host (.probed id answer)) := by
    rintro (same | same | same) <;> cases same
  have sound := traced.sound
  have probes {claim : ProbeThread width → Prop}
      (each : ∀ thread ∈ host.threads, claim (thread.probed id answer)) :
      ∀ thread ∈ host.threads.map (·.probed id answer), claim thread :=
    List.forall_mem_map.mpr each
  refine ⟨⟨sound.quiet, sound.exclusive, ?_, probes ?_, fun settled => probes ?_⟩, ?_, probes ?_, ?_⟩
  · rcases sound.alone with ⟨none_, free⟩ | ⟨thread, only, busy⟩
    · exact .inl ⟨by simp [inventoryStep, none_], free⟩
    · exact .inr ⟨thread.probed id answer, by simp [inventoryStep, only], busy⟩
  · intro thread member
    rw [ProbeThread.probed_generation]
    exact sound.past thread member
  · intro thread member
    rw [ProbeThread.probed_generation]
    exact sound.settled settled thread member
  · exact fun waiting => .waits (traced.pending waiting) kept
  · intro thread member same open_
    rw [ProbeThread.probed_generation] at same
    have course := traced.probing thread member same open_
    rw [ProbeThread.probed]
    split
    · next answered =>
        simp only [Bool.and_eq_true, decide_eq_true_eq, Option.isNone_iff_eq_none] at answered
        rw [ProbeThread.phase, answered.2, answered.1] at course
        rw [ProbeThread.phase, answered.1]
        exact .probed course rfl
    · exact .waits course kept
  · intro ready
    obtain ⟨thread, course⟩ := traced.ready ready
    exact ⟨thread, .waits course kept⟩

theorem Traced.completed {history : List (InventoryStage width)} {host : InventoryHost width}
    (traced : Traced history host) (id : ℕ) :
    Traced (history ++ [stageOf inventoryStep host (.completed id)])
      (inventoryStep host (.completed id)).2 := by
  have kept : ¬ Replaces (stageOf inventoryStep host (.completed id)) := by
    rintro (same | same | same) <;> cases same
  have sound := traced.sound
  cases found : host.threads.find? fun thread => thread.id = id && thread.result.isSome with
  | none =>
      have same : inventoryStep host (.completed id) = (.nothing, host) := by
        simp only [inventoryStep, found]
      rw [same]
      exact traced.waits kept sound rfl rfl (fun waiting => waiting) (fun _ member => member)
        fun published => ⟨published, rfl⟩
  | some thread =>
      have member := List.mem_of_find?_eq_some found
      have ended := List.find?_some found
      obtain ⟨only, busy⟩ := sound.thread member
      obtain ⟨other, generation, result⟩ := thread
      cases result with
      | none => simp at ended
      | some result =>
          simp only [Option.isSome_some, Bool.and_true, decide_eq_true_eq] at ended
          subst ended
          have left : inventoryStep host (.completed other) =
              (.completed other (host.state.completed generation result).1,
                { host with
                  state := (host.state.completed generation result).2
                  threads := [] }) := by
            simp [inventoryStep, only]
          have output : (stageOf inventoryStep host (.completed other)).output =
              .completed other (host.state.completed generation result).1 := congrArg Prod.fst left
          have none_ {claim : ProbeThread width → Prop} : ∀ thread ∈ [], claim thread :=
            fun _ member => absurd member List.not_mem_nil
          rw [left]
          rw [AudioInventoryAsync.completed] at output ⊢
          dsimp only at output ⊢
          split
          · next current =>
              rw [if_pos current] at output
              simp only [Bool.and_eq_true, Bool.not_eq_true', decide_eq_true_eq] at current
              obtain ⟨open_, same⟩ := current
              have idle : host.state.status.pending = false := by
                by_contra waiting
                exact sound.settled (.inl (by simpa using waiting)) _ member same.symm
              have course := traced.probing _ member same.symm open_
              refine ⟨⟨fun closed => ?_, fun _ => idle, .inl ⟨rfl, rfl⟩, none_, fun _ => none_⟩,
                fun waiting => ?_, none_, fun _ => ⟨other, .published course output⟩⟩
              · cases open_.symm.trans closed
              · cases idle.symm.trans waiting
          · apply traced.waits kept
            · exact ⟨sound.quiet, sound.exclusive, .inl ⟨rfl, rfl⟩, none_, fun _ => none_⟩
            · rfl
            · rfl
            · exact fun waiting => waiting
            · exact none_
            · exact fun published => ⟨published, rfl⟩

theorem Traced.step {history : List (InventoryStage width)} {host : InventoryHost width}
    (traced : Traced history host) (move : InventoryMove width) :
    Traced (history ++ [stageOf inventoryStep host move]) (inventoryStep host move).2 := by
  cases move with
  | request => exact traced.request
  | startPending constructed => exact traced.startPending constructed
  | take movedFrom => exact traced.take movedFrom
  | cancel => exact traced.cancel _
  | close => exact traced.close _
  | probed id answer => exact traced.probed id answer
  | completed id => exact traced.completed id

theorem Traced.run {history : List (InventoryStage width)} {host : InventoryHost width}
    (traced : Traced history host) (inputs : List (InventoryMove width)) :
    Traced (history ++ stages inventoryStep host inputs) (finalState inventoryStep host inputs) := by
  have everywhere : ∀ stage ∈ stages inventoryStep host inputs, True := fun _ _ => trivial
  exact history_invariant Traced (fun _ => True) (fun _ _ move known _ => known.step move) history
    traced everywhere

/-! ## Every run -/

def Launches (stage : InventoryStage width) : Prop := ∃ thread, stage.output = .started (some thread)

def Returns (stage : InventoryStage width) (inventory : AudioInventory width) : Prop :=
  stage.output = .took (some inventory)

theorem take_returned {host : InventoryHost width} {move : InventoryMove width}
    {inventory : AudioInventory width}
    (returned : Returns (stageOf inventoryStep host move) inventory) :
    host.state.status.closed = false ∧ host.state.status.ready = true ∧
      host.state.result = inventory ∧ ∃ movedFrom, move = .take movedFrom := by
  unfold Returns stageOf inventoryStep at returned
  cases move with
  | take movedFrom =>
      unfold AudioInventoryAsync.take at returned
      dsimp only at returned
      split at returned
      · cases returned
      · next ready =>
          simp only [Bool.or_eq_true, Bool.not_eq_true', not_or, Bool.not_eq_true,
            Bool.not_eq_false] at ready
          cases returned
          exact ⟨ready.1, ready.2, rfl, movedFrom, rfl⟩
  | startPending constructed =>
      dsimp only at returned
      split at returned <;> cases returned
  | completed id =>
      dsimp only at returned
      split at returned <;> cases returned
  | request | cancel | close | probed => cases returned

theorem started_cases {host : InventoryHost width} {move : InventoryMove width}
    (launches : Launches (stageOf inventoryStep host move)) :
    host.state.status.closed = false ∧ ∃ constructed, move = .startPending constructed := by
  obtain ⟨thread, started⟩ := launches
  unfold stageOf inventoryStep at started
  cases move with
  | startPending constructed =>
      unfold AudioInventoryAsync.startPending at started
      dsimp only at started
      refine ⟨?_, constructed, rfl⟩
      by_contra closed
      rw [if_pos (by simp_all)] at started
      cases started
  | completed id =>
      dsimp only at started
      split at started <;> cases started
  | request | take | cancel | close | probed => cases started

/-- Behind a take everything that a further one returns is yet to be asked for. -/
theorem Traced.taken {history : List (InventoryStage width)} {host : InventoryHost width}
    (traced : Traced history host) {move : InventoryMove width} {inventory : AudioInventory width}
    (returned : Returns (stageOf inventoryStep host move) inventory) :
    Traced [] (inventoryStep host move).2 := by
  obtain ⟨open_, ready, -, movedFrom, rfl⟩ := take_returned returned
  have sound := (traced.take movedFrom).sound
  have idle := traced.sound.exclusive ready
  have settled := traced.sound.settled (.inr ready)
  have left : inventoryStep host (.take movedFrom) =
      (.took (some host.state.result), { host with state :=
        { status := { host.state.status with ready := false }, result := movedFrom } }) := by
    simp [inventoryStep, AudioInventoryAsync.take, open_, ready]
  rw [left] at sound ⊢
  refine ⟨sound, fun waiting => ?_, fun thread member same => ?_, nofun⟩
  · cases idle.symm.trans waiting
  · exact absurd same (settled thread member)

theorem pending_kept {host : InventoryHost width} {move : InventoryMove width}
    (waiting : host.state.status.pending = true)
    (kept : ¬ Replaces (stageOf inventoryStep host move))
    (unlaunched : ¬ Launches (stageOf inventoryStep host move)) :
    (inventoryStep host move).2.state.status.pending = true := by
  unfold Launches stageOf inventoryStep at unlaunched
  unfold inventoryStep
  cases move with
  | request => exact absurd (.inl rfl) kept
  | cancel => exact absurd (.inr (.inl rfl)) kept
  | close => exact absurd (.inr (.inr rfl)) kept
  | startPending constructed =>
      unfold AudioInventoryAsync.startPending at unlaunched ⊢
      by_cases refused : (host.state.status.closed || host.state.status.busy ||
          !host.state.status.pending) = true
      · simp only [if_pos refused]
        exact waiting
      · cases constructed with
        | false =>
            simp only [if_neg refused]
            exact waiting
        | true =>
            simp only [if_neg refused] at unlaunched
            exact absurd ⟨_, rfl⟩ unlaunched
  | take movedFrom =>
      dsimp only
      unfold AudioInventoryAsync.take
      split <;> exact waiting
  | probed id answer => exact waiting
  | completed id =>
      dsimp only
      split
      · unfold AudioInventoryAsync.completed
        dsimp only
        split <;> exact waiting
      · exact waiting

theorem closed_kept {host : InventoryHost width} (closed : host.state.status.closed = true)
    (move : InventoryMove width) : (inventoryStep host move).2.state.status.closed = true := by
  unfold inventoryStep
  cases move with
  | request =>
      simp only [AudioInventoryAsync.request, if_pos closed]
      exact closed
  | startPending constructed =>
      simp only [AudioInventoryAsync.startPending, closed, Bool.true_or, if_true]
  | take movedFrom =>
      simp only [AudioInventoryAsync.take, closed, Bool.true_or, if_true]
  | cancel =>
      simp only [AudioInventoryAsync.cancel, if_pos closed]
      exact closed
  | close => rfl
  | probed id answer => exact closed
  | completed id =>
      dsimp only
      split
      · simp only [AudioInventoryAsync.completed, closed, Bool.not_true, Bool.false_and,
          Bool.false_eq_true, if_false]
      · exact closed

/-- What the object keeps to, whatever its callers and its threads do. -/
structure InventoryKept (run : List (InventoryStage width)) : Prop where
  /-- Also a thread that the object has outlived, or that has outlived the object, is counted. -/
  alone : ∀ stage ∈ run, stage.after.threads.length ≤ 1
  fresh : ∀ {before take_ after inventory}, run = before ++ take_ :: after →
    Returns take_ inventory → ∃ thread, Course before (.ready thread inventory)
  /-- From the request to its publication, what a take returns lies behind the take before it. -/
  once : ∀ {before first between second after earlier later},
    run = before ++ first :: (between ++ second :: after) → Returns first earlier →
      Returns second later → ∃ thread, Course between (.ready thread later)
  waits : ∀ {before request waiting after}, run = before ++ request :: (waiting ++ after) →
    request.output = .requested true → (∀ stage ∈ waiting, ¬ Replaces stage ∧ ¬ Launches stage) →
      ∀ stage ∈ request :: waiting, stage.after.state.snapshot.pending = true
  /-- What waits is launched by the next caller that can, once no thread is under way. -/
  starts : ∀ stage ∈ run, stage.before.state.snapshot.pending = true → stage.before.threads = [] →
    stage.input = .startPending true → Launches stage
  shut : ∀ {before close after}, run = before ++ close :: after → close.input = .close →
    ∀ stage ∈ after, ¬ Launches stage ∧ ∀ inventory, ¬ Returns stage inventory

theorem InventoryHost.Sound.starts {host : InventoryHost width} (sound : host.Sound)
    (waiting : host.state.status.pending = true) (free : host.threads = []) :
    Launches (stageOf inventoryStep host (.startPending true)) := by
  have open_ : host.state.status.closed = false := by
    by_contra closed
    have idle := (sound.quiet (by simpa using closed)).1
    cases idle.symm.trans waiting
  have idle : host.state.status.busy = false := by
    rcases sound.alone with ⟨-, idle⟩ | ⟨thread, only, -⟩
    · exact idle
    · cases free.symm.trans only
  exact ⟨host.launches, by
    simp [stageOf, inventoryStep, AudioInventoryAsync.startPending, open_, idle, waiting]⟩

theorem request_accepted {state : AudioInventoryAsync width} (accepted : state.request.1 = true) :
    state.request.2.status.pending = true := by
  unfold AudioInventoryAsync.request at accepted ⊢
  by_cases closed : state.status.closed = true
  · rw [if_pos closed] at accepted
    cases accepted
  rw [if_neg closed] at accepted ⊢
  dsimp only at accepted ⊢
  split
  · next refused =>
      rw [if_pos refused] at accepted
      cases accepted
  · rfl

theorem requested_pending {host : InventoryHost width} {move : InventoryMove width}
    (accepted : (stageOf inventoryStep host move).output = .requested true) :
    (inventoryStep host move).2.state.status.pending = true := by
  unfold stageOf inventoryStep at accepted
  cases move with
  | request => exact request_accepted (InventoryObserved.requested.inj accepted)
  | startPending constructed =>
      dsimp only at accepted
      split at accepted <;> cases accepted
  | completed id =>
      dsimp only at accepted
      split at accepted <;> cases accepted
  | take | cancel | close | probed => cases accepted

/-- A request goes on waiting from stage to stage. -/
theorem pending_run {host : InventoryHost width} (waiting : host.state.status.pending = true)
    {inputs : List (InventoryMove width)} {quiet after : List (InventoryStage width)}
    (split : stages inventoryStep host inputs = quiet ++ after)
    (kept : ∀ stage ∈ quiet, ¬ Replaces stage ∧ ¬ Launches stage) :
    ∀ stage ∈ quiet, stage.after.state.snapshot.pending = true := by
  induction inputs generalizing host quiet with
  | nil =>
      have none_ := (List.append_eq_nil_iff.mp split.symm).1
      rw [none_]
      exact fun _ member => absurd member List.not_mem_nil
  | cons move rest ih =>
      cases quiet with
      | nil => exact fun _ member => absurd member List.not_mem_nil
      | cons first others =>
          obtain ⟨rfl, behind⟩ := List.cons_eq_cons.mp split
          obtain ⟨unreplaced, unlaunched⟩ := kept _ List.mem_cons_self
          have next := pending_kept waiting unreplaced unlaunched
          have later := ih next behind fun stage member => kept stage (List.mem_cons_of_mem _ member)
          exact List.forall_mem_cons.mpr ⟨next, later⟩

/-- A closed object launches nothing and returns nothing. -/
theorem closed_run {host : InventoryHost width} (closed : host.state.status.closed = true)
    (inputs : List (InventoryMove width)) : ∀ stage ∈ stages inventoryStep host inputs,
      ¬ Launches stage ∧ ∀ inventory, ¬ Returns stage inventory := by
  have each (host : InventoryHost width) (move : InventoryMove width)
      (closed : host.state.status.closed = true) :
      ¬ Launches (stageOf inventoryStep host move) ∧
        ∀ inventory, ¬ Returns (stageOf inventoryStep host move) inventory := by
    refine ⟨fun launches => ?_, fun inventory returned => ?_⟩
    · cases closed.symm.trans (started_cases launches).1
    · cases closed.symm.trans (take_returned returned).1
  exact stages_forall_of_admitted (fun host => host.state.status.closed = true) (fun _ => True) _
    (fun _ move known _ => closed_kept known move) (fun host move known _ => each host move known)
    closed fun _ _ => trivial

theorem inventory_kept (inputs : List (InventoryMove width)) :
    InventoryKept (stages inventoryStep ({} : InventoryHost width) inputs) := by
  have traced (first : List (InventoryMove width)) := traced_initial.run first
  simp only [List.nil_append] at traced
  refine ⟨?_, ?_, ?_, ?_, ?_, ?_⟩
  · intro stage member
    obtain ⟨before, after, split⟩ := List.append_of_mem member
    obtain ⟨first, move, rest, -, -, rfl, -⟩ := stages_split split
    simp only [stageOf]
    rcases ((traced first).step move).sound.alone with ⟨none_, -⟩ | ⟨thread, only, -⟩
    · rw [none_]
      exact Nat.zero_le 1
    · rw [only]
      exact Nat.le_refl 1
  · intro before take_ after inventory run returned
    obtain ⟨first, move, rest, -, rfl, rfl, -⟩ := stages_split run
    obtain ⟨-, ready, rfl, -⟩ := take_returned returned
    exact (traced first).ready ready
  · intro before first_ between second after earlier later run taken returned
    obtain ⟨first, move, rest, -, rfl, rfl, behind⟩ := stages_split run
    obtain ⟨others, last, remaining, -, rfl, rfl, -⟩ := stages_split behind.symm
    obtain ⟨-, ready, rfl, -⟩ := take_returned returned
    exact (((traced first).taken taken).run others).ready ready
  · intro before request waiting after run accepted kept
    obtain ⟨first, move, rest, -, rfl, rfl, behind⟩ := stages_split run
    have waits := requested_pending accepted
    exact List.forall_mem_cons.mpr ⟨waits, pending_run waits behind.symm kept⟩
  · intro stage member waiting free input
    obtain ⟨before, after, split⟩ := List.append_of_mem member
    obtain ⟨first, move, rest, -, -, rfl, -⟩ := stages_split split
    obtain rfl : move = _ := input
    exact (traced first).sound.starts waiting free
  · intro before close after run input
    obtain ⟨first, move, rest, -, rfl, rfl, behind⟩ := stages_split run
    obtain rfl : move = _ := input
    rw [behind]
    exact closed_run rfl rest

/-- A cancellation leaves the thread under way; what it reports late is not taken for the answer to
the next request. -/
example :
    let inventory (count : UInt32) : AudioInventory .utf16 := { inputCount := count }
    let run := finalState inventoryStep ({} : InventoryHost .utf16)
      [.request, .startPending false, .startPending true, .cancel, .request, .startPending true,
        .probed 0 (some (inventory 1)), .completed 0, .take {}, .startPending true,
        .probed 1 (some (inventory 2)), .completed 1]
    run.state.snapshot.ready = true ∧ run.state.result.inputCount = 2 ∧ run.launches = 2 := by
  decide

end AxeVoice.Audio
