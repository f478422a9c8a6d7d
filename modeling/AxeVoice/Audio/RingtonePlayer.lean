import AxeVoice.Foundation.Reactive
import AxeVoice.Foundation.WideString

/-!
# The player of the incoming ringtone

Callers ask for a ringtone, replace it and stop it; one worker thread renders
whatever is asked for.  A render runs outside the mutex and is told by a shared
flag that it is no longer wanted.  A step is one critical section of the mutex,
or the end of a render.
-/

namespace AxeVoice.Audio

open AxeVoice.Foundation

variable {width : WCharWidth}

structure IncomingRingtoneRequest (width : WCharWidth) where
  session : UInt64 := 0
  callId : UInt64 := 0
  endpointId : WString width := []
  deriving DecidableEq

def IncomingRingtoneRequest.active (request : IncomingRingtoneRequest width) : Bool :=
  request.session ≠ 0 && request.callId ≠ 0

def validRingtoneEndpoint (id : WString width) : Bool :=
  id.length ≤ 4096 && !id.any fun unit => unit.toNat = 0

inductive TonePreviewState where
  | idle
  | playing
  | played
  | missingDevice
  | unsupportedFormat
  | failed
  | cancelled
  deriving DecidableEq, Repr

structure IncomingRingtoneSnapshot (width : WCharWidth) where
  request : IncomingRingtoneRequest width := {}
  result : TonePreviewState := .idle
  deriving DecidableEq

/-- A request names a call with its session or neither, and a device that there can be. -/
def IncomingRingtoneRequest.invalid (request : IncomingRingtoneRequest width) : Bool :=
  (request.session ≠ 0) != (request.callId ≠ 0) || !validRingtoneEndpoint request.endpointId

/-- What is asked for: nothing where the request is not valid or names no call. -/
def IncomingRingtoneRequest.asked (request : IncomingRingtoneRequest width) :
    IncomingRingtoneRequest width :=
  if request.invalid || !request.active then {} else request

/-- What the mutex guards, and the flag that the renders read. -/
structure IncomingRingtonePlayer (width : WCharWidth) where
  state : IncomingRingtoneSnapshot width := {}
  generation : UInt64 := 0
  closed : Bool := false
  rendering : Bool := false
  cancel : Bool := true

/-- Where a worker thread is; at `looking` it waits for the mutex or for a request. -/
inductive RingtoneWorker (width : WCharWidth) where
  | looking
  | rendering (generation : UInt64) (request : IncomingRingtoneRequest width)
  | rendered (generation : UInt64) (request : IncomingRingtoneRequest width)
      (result : TonePreviewState)
  | pausing (generation : UInt64)
  | finished
  deriving DecidableEq

/-- The player with every thread that it ever started. -/
structure RingtoneHost (width : WCharWidth) where
  player : IncomingRingtonePlayer width := {}
  joinable : Bool := false
  workers : List (RingtoneWorker width) := []

/-- What `synchronize` may fail in behind its checks: a copy of the request, or the thread. -/
inductive SynchronizeFault where
  | none
  | copy
  | thread
  deriving DecidableEq, Repr

namespace RingtoneHost

/-- No answer where an exception leaves the call. -/
def synchronize (fault : SynchronizeFault) (host : RingtoneHost width)
    (input : IncomingRingtoneRequest width) : Option Bool × RingtoneHost width :=
  let next := input.asked
  let player := host.player
  if player.closed then (some false, host)
  else if player.state.request = next then (some (!input.invalid), host)
  else if player.generation = 0xFFFFFFFFFFFFFFFF then
    (some false,
      { host with
        player := { player with cancel := true, closed := true, state := ⟨{}, .failed⟩ } })
  else
    let player := { player with cancel := true, generation := player.generation + 1 }
    if fault = .copy then (none, { host with player := player })
    else
      let result := if next.active then TonePreviewState.playing else .idle
      let player := { player with state := ⟨next, result⟩ }
      if next.active && !host.joinable then
        if fault = .thread then
          (some false, { host with player := { player with state := ⟨{}, .failed⟩ } })
        else
          (some (!input.invalid),
            { player := player, joinable := true, workers := host.workers ++ [.looking] })
      else (some (!input.invalid), { host with player := player })

def stop (host : RingtoneHost width) : RingtoneHost width := (host.synchronize .none {}).2

/-- The critical section of `shutdown`; the join comes behind it. -/
def shutdown (host : RingtoneHost width) : RingtoneHost width :=
  { host with player := { host.player with closed := true, cancel := true, state := {} } }

def join (host : RingtoneHost width) : RingtoneHost width :=
  if host.player.closed && host.workers.all (· = .finished) then { host with joinable := false }
  else host

/-- The worker has the mutex and looks for a request, whose copy may fail. -/
def look (copied : Bool) (player : IncomingRingtonePlayer width) :
    IncomingRingtonePlayer width × RingtoneWorker width :=
  if player.closed then (player, .finished)
  else if !player.state.request.active then (player, .looking)
  else if !copied then
    ({ player with state := { player.state with result := .failed } }, .pausing player.generation)
  else
    ({ player with cancel := false, rendering := true },
      .rendering player.generation player.state.request)

/-- The worker has the mutex again behind a render. -/
def publish (player : IncomingRingtonePlayer width) (generation : UInt64)
    (result : TonePreviewState) : IncomingRingtonePlayer width × RingtoneWorker width :=
  let player := { player with rendering := false }
  if generation = player.generation && !player.closed then
    ({ player with state := { player.state with result := result } }, .pausing generation)
  else (player, .pausing generation)

/-- What makes a worker go on. -/
inductive Turn where
  /-- It wakes up: there is something to do, or a pause is over. -/
  | look (copied : Bool)
  /-- The render returns; one that throws has failed. -/
  | rendered (result : TonePreviewState)
  | publish

/-- A turn that the worker is not in for leaves everything. -/
def turn (player : IncomingRingtonePlayer width) :
    RingtoneWorker width → Turn → IncomingRingtonePlayer width × RingtoneWorker width
  | .looking, .look copied => look copied player
  | .pausing _, .look copied => look copied player
  | .rendering generation request, .rendered result =>
      (player, .rendered generation request result)
  | .rendered generation _ result, .publish => publish player generation result
  | worker, _ => (player, worker)

end RingtoneHost

inductive RingtoneMove (width : WCharWidth) where
  | synchronize (request : IncomingRingtoneRequest width) (fault : SynchronizeFault)
  | stop
  | shutdown
  | join
  | worker (index : ℕ) (turn : RingtoneHost.Turn)

/-- The answer is that of `synchronize`. -/
def ringtoneStep (host : RingtoneHost width) :
    RingtoneMove width → Option Bool × RingtoneHost width
  | .synchronize request fault => host.synchronize fault request
  | .stop => (none, host.stop)
  | .shutdown => (none, host.shutdown)
  | .join => (none, host.join)
  | .worker index turn =>
      match host.workers[index]? with
      | none => (none, host)
      | some worker =>
          let (player, next) := RingtoneHost.turn host.player worker turn
          (none, { host with player := player, workers := host.workers.set index next })

/-- The render of a worker, from its start to the end of the critical section behind it. -/
def RingtoneWorker.render : RingtoneWorker width → Option (UInt64 × IncomingRingtoneRequest width)
  | .rendering generation request => some (generation, request)
  | .rendered generation request _ => some (generation, request)
  | _ => none

/-- The flag is set for a render that is no longer wanted, and a render that is wanted is the one
that was asked for. -/
structure Fits (player : IncomingRingtonePlayer width) (worker : RingtoneWorker width) : Prop where
  past : ∀ render ∈ worker.render, render.1 ≤ player.generation
  cancelled : ∀ render ∈ worker.render, render.1 ≠ player.generation ∨ player.closed = true →
    player.cancel = true
  current : ∀ render ∈ worker.render, render.1 = player.generation → player.closed = false →
    player.state.request = render.2

theorem Fits.resting (player : IncomingRingtonePlayer width) {worker : RingtoneWorker width}
    (none : worker.render = none) : Fits player worker := by
  constructor
  all_goals
    intro render member
    rw [none] at member
    cases member

/-- A replaced request leaves every render behind it, with the flag set. -/
theorem Fits.overtaken {player next : IncomingRingtonePlayer width} {worker : RingtoneWorker width}
    (fits : Fits player worker) (cancelled : next.cancel = true)
    (newer : next.closed = true ∨ player.generation < next.generation)
    (rises : player.generation ≤ next.generation) : Fits next worker := by
  refine ⟨fun render member => UInt64.le_trans (fits.past render member) rises,
    fun _ _ _ => cancelled, fun render member same opened => ?_⟩
  rcases newer with closed | above
  · cases closed.symm.trans opened
  · have below := fits.past render member
    rw [same] at below
    exact absurd above (UInt64.not_lt.mpr below)

/-- One worker at most, which fits, and none before one was started. -/
structure RingtoneKept (host : RingtoneHost width) : Prop where
  alone : host.workers = [] ∨ ∃ worker, host.workers = [worker] ∧ Fits host.player worker
  unstarted : host.joinable = false → host.player.closed = false → host.workers = []

theorem ringtoneKept_initial : RingtoneKept ({} : RingtoneHost width) :=
  ⟨.inl rfl, fun _ _ => rfl⟩

theorem RingtoneKept.overtaken {host : RingtoneHost width} (kept : RingtoneKept host)
    {next : IncomingRingtonePlayer width} (cancelled : next.cancel = true)
    (newer : next.closed = true ∨ host.player.generation < next.generation)
    (rises : host.player.generation ≤ next.generation)
    (opened : next.closed = false → host.player.closed = false) :
    RingtoneKept { host with player := next } := by
  refine ⟨?_, fun unjoinable stillOpen => kept.unstarted unjoinable (opened stillOpen)⟩
  rcases kept.alone with none | ⟨worker, only, fits⟩
  · exact .inl none
  · exact .inr ⟨worker, only, fits.overtaken cancelled newer rises⟩

theorem synchronize_kept {host : RingtoneHost width} (kept : RingtoneKept host)
    (fault : SynchronizeFault) (input : IncomingRingtoneRequest width) :
    RingtoneKept (host.synchronize fault input).2 := by
  rw [RingtoneHost.synchronize]
  dsimp only
  split
  · exact kept
  next opened =>
  split
  · exact kept
  split
  · exact kept.overtaken rfl (.inl rfl) (UInt64.le_refl _) nofun
  next more =>
  have above : host.player.generation < host.player.generation + 1 := by grind
  have stillOpen : host.player.closed = false := by simpa using opened
  split
  · exact kept.overtaken rfl (.inr above) (UInt64.le_of_lt above) id
  split
  · next starts =>
      split
      · exact kept.overtaken rfl (.inr above) (UInt64.le_of_lt above) id
      · have unjoinable : host.joinable = false := by
          rw [Bool.and_eq_true] at starts
          simpa using starts.2
        rw [kept.unstarted unjoinable stillOpen]
        exact ⟨.inr ⟨.looking, rfl, Fits.resting _ rfl⟩, nofun⟩
  · exact kept.overtaken rfl (.inr above) (UInt64.le_of_lt above) id

/-- What a turn of the worker does to the player. -/
structure Turned (player : IncomingRingtonePlayer width) (worker : RingtoneWorker width)
    (answer : IncomingRingtonePlayer width × RingtoneWorker width) : Prop where
  closed : answer.1.closed = player.closed
  fits : Fits player worker → Fits answer.1 answer.2

theorem look_turned (copied : Bool) (player : IncomingRingtonePlayer width)
    (worker : RingtoneWorker width) : Turned player worker (RingtoneHost.look copied player) := by
  rw [RingtoneHost.look]
  split
  · exact ⟨rfl, fun _ => .resting _ rfl⟩
  next opened =>
  split
  · exact ⟨rfl, fun _ => .resting _ rfl⟩
  split
  · exact ⟨rfl, fun _ => .resting _ rfl⟩
  · refine ⟨rfl, fun _ => ⟨?_, ?_, ?_⟩⟩
    · rintro render ⟨⟩
      exact UInt64.le_refl _
    · rintro render ⟨⟩ (other | closed)
      · exact absurd rfl other
      · exact absurd closed opened
    · rintro render ⟨⟩ _ _
      rfl

theorem publish_turned (player : IncomingRingtonePlayer width) (generation : UInt64)
    (result : TonePreviewState) (worker : RingtoneWorker width) :
    Turned player worker (RingtoneHost.publish player generation result) := by
  rw [RingtoneHost.publish]
  dsimp only
  split
  · exact ⟨rfl, fun _ => .resting _ rfl⟩
  · exact ⟨rfl, fun _ => .resting _ rfl⟩

theorem turn_turned (player : IncomingRingtonePlayer width) (worker : RingtoneWorker width)
    (turn : RingtoneHost.Turn) : Turned player worker (RingtoneHost.turn player worker turn) := by
  rw [RingtoneHost.turn.eq_def]
  split
  · exact look_turned _ player _
  · exact look_turned _ player _
  · exact ⟨rfl, fun fits => ⟨fits.past, fits.cancelled, fits.current⟩⟩
  · exact publish_turned player _ _ _
  · exact ⟨rfl, id⟩

theorem ringtoneStep_kept {host : RingtoneHost width} (kept : RingtoneKept host)
    (move : RingtoneMove width) : RingtoneKept (ringtoneStep host move).2 := by
  cases move with
  | synchronize request fault => exact synchronize_kept kept fault request
  | stop => exact synchronize_kept kept .none {}
  | shutdown => exact kept.overtaken rfl (.inl rfl) (UInt64.le_refl _) nofun
  | join =>
      rw [ringtoneStep, RingtoneHost.join]
      split
      · next ended =>
          rw [Bool.and_eq_true] at ended
          refine ⟨kept.alone, fun _ opened => ?_⟩
          cases ended.1.symm.trans opened
      · exact kept
  | worker index turn =>
      rw [ringtoneStep]
      split
      · exact kept
      next worker found =>
      have turned := turn_turned host.player worker turn
      generalize RingtoneHost.turn host.player worker turn = answer at turned
      obtain ⟨player, next⟩ := answer
      dsimp only
      rcases kept.alone with none | ⟨only, single, fits⟩
      · rw [none] at found
        cases found
      · rw [single] at found ⊢
        cases index with
        | zero =>
            cases found
            refine ⟨.inr ⟨next, rfl, turned.fits fits⟩, fun unjoinable opened => ?_⟩
            rw [turned.closed] at opened
            cases single.symm.trans (kept.unstarted unjoinable opened)
        | succ index => cases found

theorem reachable_ringtoneKept (moves : List (RingtoneMove width)) :
    RingtoneKept (finalState ringtoneStep {} moves) := by
  have step (host : RingtoneHost width) (move : RingtoneMove width) (kept : RingtoneKept host) :
      RingtoneKept (ringtoneStep host move).2 := ringtoneStep_kept kept move
  exact finalState_invariant step ringtoneKept_initial moves

/-! ## What a stage does -/

abbrev RingtoneStage (width : WCharWidth) :=
  Stage (RingtoneHost width) (RingtoneMove width) (Option Bool)

/-- A render starts: a worker is in it that was not before. -/
def Starts (stage : RingtoneStage width) (generation : UInt64)
    (request : IncomingRingtoneRequest width) : Prop :=
  ∃ index : ℕ, stage.after.workers[index]? = some (RingtoneWorker.rendering generation request) ∧
    stage.before.workers[index]? ≠ some (RingtoneWorker.rendering generation request)

/-- A render starts for what is asked for at the time, with the flag cleared. -/
structure StartedCurrent (stage : RingtoneStage width) (generation : UInt64)
    (request : IncomingRingtoneRequest width) : Prop where
  current : generation = stage.before.player.generation
  asked : request = stage.before.player.state.request
  active : request.active = true
  opened : stage.before.player.closed = false
  cleared : stage.after.player.cancel = false

/-- The result of a render is published: its generation is still the one, and the player open. -/
structure PublishedCurrent (stage : RingtoneStage width) (generation : UInt64)
    (request : IncomingRingtoneRequest width) (result : TonePreviewState) : Prop where
  current : generation = stage.before.player.generation
  opened : stage.before.player.closed = false
  asked : request = stage.before.player.state.request
  published : stage.after.player.state = ⟨request, result⟩

theorem synchronize_workers (host : RingtoneHost width) (fault : SynchronizeFault)
    (input : IncomingRingtoneRequest width) :
    (host.synchronize fault input).2.workers = host.workers ∨
      (host.synchronize fault input).2.workers = host.workers ++ [.looking] := by
  rw [RingtoneHost.synchronize]
  dsimp only
  split
  · exact .inl rfl
  split
  · exact .inl rfl
  split
  · exact .inl rfl
  split
  · exact .inl rfl
  split
  · split
    · exact .inl rfl
    · exact .inr rfl
  · exact .inl rfl

theorem not_starts_of_workers {stage : RingtoneStage width} {generation : UInt64}
    {request : IncomingRingtoneRequest width}
    (same : stage.after.workers = stage.before.workers ∨
      stage.after.workers = stage.before.workers ++ [.looking]) :
    ¬ Starts stage generation request := by
  rintro ⟨index, after, before⟩
  rcases same with same | same
  · exact before (same ▸ after)
  · rw [same, List.getElem?_append] at after
    split at after
    · exact before after
    · cases List.mem_singleton.mp (List.mem_of_getElem? after)

theorem look_rendering {copied : Bool} {player : IncomingRingtonePlayer width}
    {generation : UInt64} {request : IncomingRingtoneRequest width}
    (started : (RingtoneHost.look copied player).2 = .rendering generation request) :
    generation = player.generation ∧ request = player.state.request ∧ request.active = true ∧
      player.closed = false ∧ (RingtoneHost.look copied player).1.cancel = false := by
  rw [RingtoneHost.look] at started ⊢
  split at started
  · cases started
  next opened =>
  split at started
  · cases started
  next active =>
  split at started
  · cases started
  next made =>
  cases started
  rw [if_neg opened, if_neg active, if_neg made]
  exact ⟨rfl, rfl, by simpa using active, by simpa using opened, rfl⟩

/-- Only a look starts a render. -/
theorem turn_rendering {player : IncomingRingtonePlayer width} {worker : RingtoneWorker width}
    {turn : RingtoneHost.Turn} {generation : UInt64} {request : IncomingRingtoneRequest width}
    (started : (RingtoneHost.turn player worker turn).2 = .rendering generation request)
    (fresh : worker ≠ .rendering generation request) :
    generation = player.generation ∧ request = player.state.request ∧ request.active = true ∧
      player.closed = false ∧ (RingtoneHost.turn player worker turn).1.cancel = false := by
  rw [RingtoneHost.turn.eq_def] at started ⊢
  split at started
  · exact look_rendering started
  · exact look_rendering started
  · cases started
  · rw [RingtoneHost.publish] at started
    dsimp only at started
    split at started
    · cases started
    · cases started
  · exact absurd started fresh

theorem worker_turn {host : RingtoneHost width} {index : ℕ} {worker : RingtoneWorker width}
    {turn : RingtoneHost.Turn} (found : host.workers[index]? = some worker) :
    ringtoneStep host (.worker index turn) = (none,
      { host with
        player := (RingtoneHost.turn host.player worker turn).1
        workers := host.workers.set index (RingtoneHost.turn host.player worker turn).2 }) := by
  rw [ringtoneStep, found]

theorem starts_current (host : RingtoneHost width) (move : RingtoneMove width)
    {generation : UInt64} {request : IncomingRingtoneRequest width}
    (starts : Starts (stageOf ringtoneStep host move) generation request) :
    StartedCurrent (stageOf ringtoneStep host move) generation request := by
  cases move with
  | synchronize input fault =>
      exact absurd starts (not_starts_of_workers (synchronize_workers host fault input))
  | stop => exact absurd starts (not_starts_of_workers (synchronize_workers host .none {}))
  | shutdown => exact absurd starts (not_starts_of_workers (.inl rfl))
  | join =>
      refine absurd starts (not_starts_of_workers (.inl ?_))
      rw [stageOf, ringtoneStep, RingtoneHost.join]
      dsimp only
      split
      · rfl
      · rfl
  | worker index turn =>
      obtain ⟨position, after, before⟩ := starts
      rw [stageOf] at after before ⊢
      dsimp only at after before
      cases found : host.workers[index]? with
      | none =>
          rw [ringtoneStep, found] at after
          exact absurd after before
      | some worker =>
          rw [worker_turn found] at after ⊢
          rw [List.getElem?_set] at after
          split at after
          · next here =>
              subst here
              split at after
              · have fresh : worker ≠ .rendering generation request := by
                  rintro rfl
                  exact before found
                obtain ⟨current, asked, active, opened, cleared⟩ :=
                  turn_rendering (Option.some.inj after) fresh
                exact ⟨current, asked, active, opened, cleared⟩
              · cases after
          · exact absurd after before

/-- A render publishes its result, if at all, under the request that it was started for. -/
theorem publish_current {host : RingtoneHost width} (kept : RingtoneKept host) {index : ℕ}
    {turn : RingtoneHost.Turn} (other : ∀ copied, turn ≠ .look copied)
    (changed : (ringtoneStep host (.worker index turn)).2.player.state ≠ host.player.state) :
    ∃ generation request result,
      host.workers[index]? = some (.rendered generation request result) ∧
        PublishedCurrent (stageOf ringtoneStep host (.worker index turn)) generation request
          result := by
  cases found : host.workers[index]? with
  | none =>
      rw [ringtoneStep, found] at changed
      exact absurd rfl changed
  | some worker =>
      have fits : Fits host.player worker := by
        rcases kept.alone with none | ⟨only, single, fits⟩
        · rw [none] at found
          cases found
        · rw [single] at found
          rw [List.mem_singleton.mp (List.mem_of_getElem? found)]
          exact fits
      rw [worker_turn found] at changed
      rw [stageOf, worker_turn found]
      rw [RingtoneHost.turn.eq_def] at changed
      split at changed
      · exact absurd rfl (other _)
      · exact absurd rfl (other _)
      · exact absurd rfl changed
      · next generation request result =>
          refine ⟨generation, request, result, rfl, ?_⟩
          rw [RingtoneHost.publish] at changed
          dsimp only at changed
          split at changed
          · next current =>
              have wanted := current
              rw [Bool.and_eq_true, decide_eq_true_eq, Bool.not_eq_true'] at wanted
              have asked : host.player.state.request = request :=
                fits.current (generation, request) rfl wanted.1 wanted.2
              refine ⟨wanted.1, wanted.2, asked.symm, ?_⟩
              dsimp only
              rw [RingtoneHost.turn, RingtoneHost.publish]
              dsimp only
              rw [if_pos current, ← asked]
          · exact absurd rfl changed
      · exact absurd rfl changed

theorem closed_forever {host : RingtoneHost width} (closed : host.player.closed = true)
    (move : RingtoneMove width) : (ringtoneStep host move).2.player.closed = true := by
  have refused (fault : SynchronizeFault) (input : IncomingRingtoneRequest width) :
      (host.synchronize fault input).2.player.closed = true := by
    rw [RingtoneHost.synchronize]
    dsimp only
    rw [if_pos closed]
    exact closed
  cases move with
  | synchronize input fault => exact refused fault input
  | stop => exact refused .none {}
  | shutdown => rfl
  | join =>
      rw [ringtoneStep, RingtoneHost.join]
      split
      · exact closed
      · exact closed
  | worker index turn =>
      cases found : host.workers[index]? with
      | none =>
          rw [ringtoneStep, found]
          exact closed
      | some worker =>
          rw [worker_turn found]
          exact (turn_turned host.player worker turn).closed.trans closed

/-- What holds of the renders of every run. -/
structure RingtoneFacts (moves : List (RingtoneMove width)) : Prop where
  cancelled : ∀ generation request,
    RingtoneWorker.rendering generation request ∈ (finalState ringtoneStep {} moves).workers →
    generation ≠ (finalState ringtoneStep {} moves).player.generation ∨
      (finalState ringtoneStep {} moves).player.closed = true →
    (finalState ringtoneStep {} moves).player.cancel = true
  single : ((finalState ringtoneStep {} moves).workers.filter fun worker =>
    worker.render.isSome).length ≤ 1
  published : ∀ stage ∈ stages ringtoneStep {} moves, ∀ index turn,
    stage.input = .worker index turn → (∀ copied, turn ≠ .look copied) →
    stage.after.player.state ≠ stage.before.player.state →
    ∃ generation request result,
      stage.before.workers[index]? = some (.rendered generation request result) ∧
        PublishedCurrent stage generation request result
  started : ∀ stage ∈ stages ringtoneStep {} moves, ∀ generation request,
    Starts stage generation request → StartedCurrent stage generation request
  ended : ∀ before after, moves = before ++ .shutdown :: after →
    ∀ stage ∈ stages ringtoneStep (finalState ringtoneStep {} (before ++ [.shutdown])) after,
      ∀ generation request, ¬ Starts stage generation request

theorem ringtone_always_cancelled (moves : List (RingtoneMove width)) : RingtoneFacts moves := by
  have kept := reachable_ringtoneKept moves
  constructor
  · intro generation request member
    rcases kept.alone with none | ⟨worker, only, fits⟩
    · rw [none] at member
      cases member
    · rw [only] at member
      rw [← List.mem_singleton.mp member] at fits
      exact fits.cancelled _ rfl
  · refine Nat.le_trans (List.length_filter_le _ _) ?_
    rcases kept.alone with none | ⟨worker, only, -⟩
    · rw [none]
      exact Nat.zero_le 1
    · rw [only]
      exact Nat.le_refl 1
  · have step (host : RingtoneHost width) (move : RingtoneMove width) (kept : RingtoneKept host) :
        RingtoneKept (ringtoneStep host move).2 := ringtoneStep_kept kept move
    refine stages_forall step (fun host move kept index turn input other changed => ?_)
      ringtoneKept_initial moves
    cases input
    exact publish_current kept other changed
  · exact stages_forall_of_step _ (fun host move generation request starts =>
      starts_current host move starts) _ moves
  · intro before after _
    have shut : (finalState ringtoneStep {} (before ++ [.shutdown])).player.closed = true := by
      rw [finalState_append]
      rfl
    have closed (host : RingtoneHost width) (move : RingtoneMove width)
        (closed : host.player.closed = true) : (ringtoneStep host move).2.player.closed = true :=
      closed_forever closed move
    refine stages_forall closed (fun host move closed generation request starts => ?_) shut after
    have opened := (starts_current host move starts).opened
    cases closed.symm.trans opened

end AxeVoice.Audio
