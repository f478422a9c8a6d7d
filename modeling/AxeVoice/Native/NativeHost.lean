import Mathlib.Logic.Function.Basic
import AxeVoice.Native.RegistrationDispatch

/-!
# The host of the registration dispatcher

The owner's thread runs the event loop with its ticks; one thread starts and
stops the host, and any number of calls of other threads submit and cancel.  A
step is what a thread does up to its next access to something shared.  What may
fail or throw takes its outcome as an argument.
-/

namespace AxeVoice.Native

open AxeVoice.Foundation

/-- What another thread asks for. -/
inductive HostRequest
  | submit (timeoutMs : UInt32)
  | submitForGeneration (id : UInt64) (timeoutMs : UInt32)
  | cancel

/-- Where a call of `submit`, `submit_for_generation` or `cancel` stands. -/
inductive CallPoint
  | unmade
  /-- Before `submit` reads the generation. -/
  | naming (timeoutMs : UInt32)
  | admitting (id : UInt64) (timeoutMs : UInt32)
  | comparing (id : UInt64) (timeoutMs : UInt32)
  | enqueueing (id : UInt64) (timeoutMs : UInt32)
  | waking (id : UInt64)
  /-- The wake has failed. -/
  | withdrawing (id : UInt64)
  /-- Before `cancel` reads the generation. -/
  | cancelNaming
  | cancelAdmitting (id : UInt64)
  | cancelling (id : UInt64)
  | cancelWaking
  | returning (answer : Bool)
  | returned
  deriving DecidableEq

/-- Where the thread that starts and stops the host stands. -/
inductive LifecyclePoint
  | idle
  | startProbing
  | startRefusing
  | startLaunching
  | startWaiting
  /-- The launch has failed. -/
  | startEnding
  | startJoining
  | startReading
  | stopRefusing
  | stopInvalidating
  | stopEnding
  | stopJoining
  | stopClearing
  deriving DecidableEq, Repr

/-- Where the owner's thread stands. -/
inductive HostThread
  | absent
  | initializing
  /-- In `on_start`. -/
  | creating
  | publishing
  | admitting
  /-- Before the start hook's outcome is published. -/
  | announcing (began : Bool)
  /-- In the event loop, between its handlers. -/
  | looping
  /-- A handler has decided on a tick. -/
  | entering
  | ticking
  /-- Behind the event loop. -/
  | leaving
  /-- In `on_stop`. -/
  | refusing
  | invalidating
  | releasing
  | stopping
  | clearing
  | detaching
  | finished
  deriving DecidableEq, Repr

/-- The reactor, of which the queue for wakes is there while it is running. -/
structure LibreReactor where
  running : Bool := false
  ready : Bool := false
  ending : Bool := true
  deriving DecidableEq, Repr

structure BaresipNativeRegistrationHost where
  /-- The queue, and the dispatcher and the gateway that `owner_` points to. -/
  dispatch : RegistrationHost := {}
  /-- The generation of `owner_`, zero where there is none. -/
  ownerGeneration : UInt64 := 0
  activeGeneration : UInt64 := 0
  accepting : Bool := false
  reactor : LibreReactor := {}
  owner : HostThread := .absent
  lifecycle : LifecyclePoint := .idle
  calls : ℕ → CallPoint := fun _ => .unmade

/-- What the owner's thread meets in its next step. -/
structure OwnerAnswers where
  /-- libre and its queue come up. -/
  initialized : Bool
  monotonicMs : UInt64
  selected : Address
  sdk : SdkAnswers

inductive HostMove
  | call (number : ℕ) (request : HostRequest)
  /-- A call takes its next step; the outcome of `mqueue_push` is that of a wake. -/
  | advance (number : ℕ) (pushed : Bool)
  | start
  | stop
  /-- `start` or `stop` takes its next step; a thread can be created, or not. -/
  | lifecycle (created : Bool)
  | owner (answers : OwnerAnswers)
  /-- The timer or a wake reaches the event loop. -/
  | fires
  | loopEnds
  /-- What runs in a tick throws. -/
  | throws
  | deliver (delivery : Delivery) (context : Option ℕ)
  | otherAdapterClaims
  | otherAdapterReleases

inductive HostObserved
  | nothing
  | enqueued (number : ℕ) (answer : Enqueued) (command : RegistrationCommand)
  | returned (number : ℕ) (answer : Bool)
  | began (generation : UInt64)
  | tickBegins
  | dispatched (observed : RegistrationObserved)
  | invalidated
  /-- `on_stop` is done. -/
  | stopped
  | startReturned (answer : Bool)
  | startThrew
  | stopReturned (answer : Bool)

namespace BaresipNativeRegistrationHost

def withQueue (host : BaresipNativeRegistrationHost) (queue : RegistrationCommandQueue) :
    BaresipNativeRegistrationHost :=
  { host with dispatch := { host.dispatch with queue := queue } }

def withCall (host : BaresipNativeRegistrationHost) (number : ℕ) (point : CallPoint) :
    BaresipNativeRegistrationHost :=
  { host with calls := Function.update host.calls number point }

def wake (host : BaresipNativeRegistrationHost) (pushed : Bool) : Bool :=
  !host.reactor.ending && host.reactor.running && pushed

def beginCall (host : BaresipNativeRegistrationHost) (number : ℕ) (request : HostRequest) :
    BaresipNativeRegistrationHost :=
  if host.calls number ≠ .unmade then host
  else
    host.withCall number
      (match request with
      | .submit timeoutMs => .naming timeoutMs
      | .submitForGeneration id timeoutMs => .admitting id timeoutMs
      | .cancel => .cancelNaming)

def advanceCall (host : BaresipNativeRegistrationHost) (number : ℕ) (pushed : Bool) :
    HostObserved × BaresipNativeRegistrationHost :=
  match host.calls number with
  | .unmade => (.nothing, host)
  | .naming timeoutMs =>
      (.nothing, host.withCall number (.admitting host.activeGeneration timeoutMs))
  | .admitting id timeoutMs =>
      (.nothing,
        host.withCall number (if host.accepting then .comparing id timeoutMs else .returning false))
  | .comparing id timeoutMs =>
      (.nothing,
        host.withCall number
          (if id = 0 ∨ id ≠ host.activeGeneration then .returning false
          else .enqueueing id timeoutMs))
  | .enqueueing id timeoutMs =>
      let (answer, queue) := host.dispatch.queue.submit id timeoutMs
      (.enqueued number answer ⟨.submitSelectedAccount, id, timeoutMs⟩,
        (host.withQueue queue).withCall number
          (if answer = .accepted then .waking id else .returning false))
  | .waking id =>
      (.nothing,
        host.withCall number (if host.wake pushed then .returning true else .withdrawing id))
  | .withdrawing id =>
      let (answer, queue) := host.dispatch.queue.cancel id
      (.enqueued number answer ⟨.cancel, id, 0⟩,
        (host.withQueue queue).withCall number (.returning false))
  | .cancelNaming => (.nothing, host.withCall number (.cancelAdmitting host.activeGeneration))
  | .cancelAdmitting id =>
      (.nothing,
        host.withCall number
          (if host.accepting && id ≠ 0 then .cancelling id else .returning false))
  | .cancelling id =>
      let (answer, queue) := host.dispatch.queue.cancel id
      (.enqueued number answer ⟨.cancel, id, 0⟩,
        (host.withQueue queue).withCall number
          (if answer = .accepted then .cancelWaking else .returning false))
  -- whether the wake succeeds makes no difference: the timer is the fallback
  | .cancelWaking => (.nothing, host.withCall number (.returning true))
  | .returning answer => (.returned number answer, host.withCall number .returned)
  | .returned => (.nothing, host)

def advanceLifecycle (host : BaresipNativeRegistrationHost) (created : Bool) :
    HostObserved × BaresipNativeRegistrationHost :=
  match host.lifecycle with
  | .idle => (.nothing, host)
  | .startProbing =>
      if host.reactor.running then (.startReturned false, { host with lifecycle := .idle })
      else (.nothing, { host with lifecycle := .startRefusing })
  | .startRefusing => (.nothing, { host with accepting := false, lifecycle := .startLaunching })
  | .startLaunching =>
      -- the thread of a run that ended by itself has not been joined
      if host.owner ≠ .absent then (.nothing, { host with lifecycle := .startEnding })
      else if !created then
        (.startThrew,
          { host with
            reactor := { running := false, ready := false, ending := false }
            lifecycle := .idle })
      else
        (.nothing,
          { host with
            reactor := { running := false, ready := false, ending := false }
            owner := .initializing
            lifecycle := .startWaiting })
  | .startWaiting =>
      (.nothing,
        if !host.reactor.ready then host
        else if host.reactor.running then { host with lifecycle := .startReading }
        else { host with lifecycle := .startEnding })
  | .startEnding =>
      if host.owner = .absent then (.startReturned false, { host with lifecycle := .idle })
      else
        (.nothing,
          { host with
            reactor := { host.reactor with ending := true }, lifecycle := .startJoining })
  | .startJoining =>
      if host.owner = .finished then
        (.startReturned false, { host with owner := .absent, lifecycle := .idle })
      else (.nothing, host)
  | .startReading => (.startReturned host.accepting, { host with lifecycle := .idle })
  | .stopRefusing => (.nothing, { host with accepting := false, lifecycle := .stopInvalidating })
  | .stopInvalidating =>
      (.invalidated,
        { host.withQueue host.dispatch.queue.invalidate with lifecycle := .stopEnding })
  | .stopEnding =>
      (.nothing,
        if host.owner = .absent then { host with lifecycle := .stopClearing }
        else
          { host with
            reactor := { host.reactor with ending := true }, lifecycle := .stopJoining })
  | .stopJoining =>
      (.nothing,
        if host.owner = .finished then
          { host with owner := .absent, lifecycle := .stopClearing }
        else host)
  | .stopClearing => (.stopReturned true, { host with activeGeneration := 0, lifecycle := .idle })

/-- A new owner state, in which nothing is subscribed or submitted. -/
def newGateway (host : BaresipNativeRegistrationHost) : BaresipSdkRegistrationGateway :=
  { bridge :=
      { lifecycle := { ingress := { mailbox := default } }
        processOwner := host.dispatch.gateway.bridge.processOwner } }

/-- `begin_generation` in `on_start`. -/
def create (host : BaresipNativeRegistrationHost) : HostObserved × BaresipNativeRegistrationHost :=
  let (generation, queue) := host.dispatch.queue.beginGeneration
  if generation = 0 then (.nothing, { host with owner := .announcing false })
  else
    (.began generation,
      { host with
        dispatch := { queue := queue, gateway := host.newGateway, point := .idle }
        ownerGeneration := generation
        owner := .publishing })

/-- The handler of an exception: the loop is left, and the tick with it. -/
def abandon (host : BaresipNativeRegistrationHost) : BaresipNativeRegistrationHost :=
  { host with
    dispatch := { host.dispatch with point := .idle }
    reactor := { host.reactor with ending := true }
    owner := .leaving }

def advanceOwner (host : BaresipNativeRegistrationHost) (answers : OwnerAnswers) :
    HostObserved × BaresipNativeRegistrationHost :=
  match host.owner with
  | .absent | .looping | .finished => (.nothing, host)
  | .initializing =>
      (.nothing,
        if answers.initialized then { host with owner := .creating }
        else { host with reactor := { host.reactor with ready := true }, owner := .finished })
  | .creating => host.create
  | .publishing =>
      (.nothing, { host with activeGeneration := host.ownerGeneration, owner := .admitting })
  | .admitting => (.nothing, { host with accepting := true, owner := .announcing true })
  | .announcing began =>
      (.nothing,
        { host with
          reactor := { host.reactor with ready := true, running := began }
          owner := if began then .looping else .leaving })
  | .entering =>
      if host.ownerGeneration = 0 then (.nothing, host.abandon)
      else
        let (observed, dispatch) :=
          host.dispatch.beginTick host.ownerGeneration answers.monotonicMs answers.selected
        (.dispatched observed, { host with dispatch := dispatch, owner := .ticking })
  | .ticking =>
      let (observed, dispatch) := registrationStep host.dispatch (.owner answers.sdk)
      (.dispatched observed,
        { host with
          dispatch := dispatch, owner := if dispatch.point = .idle then .looping else .ticking })
  | .leaving =>
      (.nothing, { host with reactor := { host.reactor with ending := true }, owner := .refusing })
  | .refusing => (.nothing, { host with accepting := false, owner := .invalidating })
  | .invalidating =>
      (.invalidated, { host.withQueue host.dispatch.queue.invalidate with owner := .releasing })
  | .releasing =>
      if host.ownerGeneration = 0 then (.nothing, { host with owner := .clearing })
      else
        (.nothing,
          { host with dispatch := (registrationStep host.dispatch .stop).2, owner := .stopping })
  | .stopping =>
      let (observed, dispatch) := registrationStep host.dispatch (.owner answers.sdk)
      (.dispatched observed,
        if dispatch.point = .idle then
          { host with dispatch := dispatch, ownerGeneration := 0, owner := .clearing }
        else { host with dispatch := dispatch })
  | .clearing => (.stopped, { host with activeGeneration := 0, owner := .detaching })
  | .detaching =>
      (.nothing,
        { host with reactor := { host.reactor with running := false }, owner := .finished })

/-- A handler of the event loop runs: it leaves the loop, or begins a tick. -/
def fire (host : BaresipNativeRegistrationHost) : HostObserved × BaresipNativeRegistrationHost :=
  if host.owner ≠ .looping then (.nothing, host)
  else if host.reactor.ending then (.nothing, { host with owner := .leaving })
  else (.tickBegins, { host with owner := .entering })

/-- Native events reach the adapter of the owner state. -/
def native (host : BaresipNativeRegistrationHost) (move : RegistrationMove) :
    BaresipNativeRegistrationHost :=
  match host.owner with
  | .looping | .ticking | .stopping =>
      { host with dispatch := (registrationStep host.dispatch move).2 }
  | _ => host

end BaresipNativeRegistrationHost

def hostStep (host : BaresipNativeRegistrationHost) :
    HostMove → HostObserved × BaresipNativeRegistrationHost
  | .call number request => (.nothing, host.beginCall number request)
  | .advance number pushed => host.advanceCall number pushed
  | .start =>
      (.nothing, if host.lifecycle = .idle then { host with lifecycle := .startProbing } else host)
  | .stop =>
      (.nothing, if host.lifecycle = .idle then { host with lifecycle := .stopRefusing } else host)
  | .lifecycle created => host.advanceLifecycle created
  | .owner answers => host.advanceOwner answers
  | .fires => host.fire
  | .loopEnds =>
      (.nothing, if host.owner = .looping then { host with owner := .leaving } else host)
  | .throws =>
      (.nothing, if host.owner = .entering ∨ host.owner = .ticking then host.abandon else host)
  | .deliver delivery context => (.nothing, host.native (.deliver delivery context))
  | .otherAdapterClaims => (.nothing, host.native .otherAdapterClaims)
  | .otherAdapterReleases => (.nothing, host.native .otherAdapterReleases)

abbrev HostStage := Stage BaresipNativeRegistrationHost HostMove HostObserved

end AxeVoice.Native
