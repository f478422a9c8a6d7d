import AxeVoice.Native.EngineAccount

/-!
# The credentials of the native engine

The password is stored from the configuration that brought it until the SDK has
it, and no longer than the configuration is armed or being registered.  The two
threads are told apart by where they stand: a table of their joint positions
says who may still hold the password.
-/

namespace AxeVoice.Native

open Foundation Sip

variable {width : WCharWidth}

namespace EngineObserved

/-- After this the stored password is gone. -/
def discards : EngineObserved → Bool
  | .handed | .failed | .ended | .configured .rejected | .registered .failed | .stopped => true
  | _ => false

/-- After this no configuration is armed. -/
def disarms : EngineObserved → Bool
  | .registering | .configured .rejected | .stopped => true
  | _ => false

end EngineObserved

/-- `configure_authenticated` has returned true. -/
def Configures (stage : EngineStage width) : Prop := stage.output = .configured .accepted

def Discards (stage : EngineStage width) : Prop := stage.output.discards = true

def Disarms (stage : EngineStage width) : Prop := stage.output.disarms = true

/-- The reactor has been started. -/
def StartsReactor (stage : EngineStage width) : Prop := stage.output = .started

/-- What is observed of a step tells what it did to the password and to the armed flag. -/
structure Tells (observed : EngineObserved) (before after : BaresipSipEngine width) : Prop where
  closed : observed.discards = true → after.password = []
  disarmed : observed.disarms = true → after.configured = false
  armed : observed = .configured .accepted → after.configured = true
  password : observed ≠ .configured .accepted → after.password = [] ∨
    after.password = before.password
  configured : observed ≠ .configured .accepted → observed.disarms = false →
    after.configured = before.configured

/-- A step that discards and disarms nothing, and leaves the two alone. -/
theorem Tells.frame {observed : EngineObserved} {before after : BaresipSipEngine width}
    (discards : observed.discards = false) (disarms : observed.disarms = false)
    (other : observed ≠ .configured .accepted) (password : after.password = before.password)
    (configured : after.configured = before.configured) : Tells observed before after where
  closed closed := by cases discards.symm.trans closed
  disarmed disarmed := by cases disarms.symm.trans disarmed
  armed accepted := absurd accepted other
  password _ := .inr password
  configured _ _ := configured

/-- A step that erases the password and leaves the flag alone. -/
theorem Tells.erased {observed : EngineObserved} {before after : BaresipSipEngine width}
    (disarms : observed.disarms = false) (other : observed ≠ .configured .accepted)
    (password : after.password = []) (configured : after.configured = before.configured) :
    Tells observed before after where
  closed _ := password
  disarmed disarmed := by cases disarms.symm.trans disarmed
  armed accepted := absurd accepted other
  password _ := .inl password
  configured _ _ := configured

/-- A step that erases the password and disarms. -/
theorem Tells.dropped {observed : EngineObserved} {before after : BaresipSipEngine width}
    (disarms : observed.disarms = true) (password : after.password = [])
    (configured : after.configured = false) : Tells observed before after where
  closed _ := password
  disarmed _ := configured
  armed accepted := by cases accepted; cases disarms
  password _ := .inl password
  configured _ kept := by cases disarms.symm.trans kept

theorem Tells.nothing (engine : BaresipSipEngine width) : Tells .nothing engine engine :=
  .frame rfl rfl nofun rfl rfl

namespace BaresipSipEngine

variable (engine : BaresipSipEngine width)

@[simp] theorem fail_password : engine.fail.password = [] := rfl

@[simp] theorem fail_configured : engine.fail.configured = engine.configured := rfl

@[simp] theorem publishMedia_password (observed : SipRuntimeObservation)
    (reading : NativeCallMediaState) :
    (engine.publishMedia observed reading).password = engine.password := rfl

@[simp] theorem publishMedia_configured (observed : SipRuntimeObservation)
    (reading : NativeCallMediaState) :
    (engine.publishMedia observed reading).configured = engine.configured := rfl

theorem passed_password (now : UInt64) (step : StartStep) :
    (engine.passed now step).password = engine.password := by
  cases step <;> rfl

theorem passed_configured (now : UInt64) (step : StartStep) :
    (engine.passed now step).configured = engine.configured := by
  cases step <;> rfl

/-- A tick that fails erases; any other leaves the credentials alone. -/
theorem tick_credentials (reading : TickReading) :
    (engine.tick reading).2.configured = engine.configured ∧
      ((engine.tick reading).2.password = engine.password ∨ (engine.tick reading).2.password = []) ∧
        ((engine.tick reading).1 = .failed → (engine.tick reading).2.password = []) := by
  rw [tick]
  split
  · exact ⟨rfl, .inl rfl, nofun⟩
  dsimp only
  split
  · split
    · exact ⟨rfl, .inr rfl, fun _ => rfl⟩
    · exact ⟨rfl, .inr rfl, fun _ => rfl⟩
  · split
    · exact ⟨rfl, .inl rfl, nofun⟩
    · exact ⟨rfl, .inl rfl, nofun⟩

theorem affected_configured (effect : CallEffect) :
    (engine.affected effect).configured = engine.configured := by
  cases effect <;> rfl

theorem carryOut_configured (observed : SipRuntimeObservation) (fate : CommandFate) :
    (engine.carryOut observed fate).configured = engine.configured := by
  cases fate with
  | ignored | audioRefused audio => rfl
  | dispatched audio effect media =>
      rw [carryOut, publishMedia_configured, affected_configured]

/-- Only a call that is lost fails the engine. -/
theorem carryOut_password (observed : SipRuntimeObservation) (fate : CommandFate) :
    (engine.carryOut observed fate).password = engine.password ∨
      (engine.carryOut observed fate).password = [] := by
  cases fate with
  | ignored | audioRefused audio => exact .inl rfl
  | dispatched audio effect media =>
      rw [carryOut, publishMedia_password]
      cases effect with
      | lost => exact .inr rfl
      | applied | dtmf error | muted applied | held error => exact .inl rfl

theorem submit_password (command : NativeCallCommand) (current : Bool) :
    (engine.submit command current).2.password = engine.password := by
  rw [submit]
  split
  · rfl
  · rfl

theorem submit_configured (command : NativeCallCommand) (current : Bool) :
    (engine.submit command current).2.configured = engine.configured := by
  rw [submit]
  split
  · rfl
  · rfl

end BaresipSipEngine

namespace EngineHost

variable (host : EngineHost width)

/-- Of a call that is made at all, what is known of it. -/
theorem call_cases (called : EngineObserved × EngineHost width) :
    host.caller = .idle ∧ host.call called = called ∨
      host.call called = (.nothing, host) := by
  rw [call]
  split
  · next idle => exact .inl ⟨idle, rfl⟩
  · exact .inr rfl

theorem call_idle {called : EngineObserved × EngineHost width} (idle : host.caller = .idle) :
    host.call called = called := by
  rw [call, idle]

theorem configure_tells : Tells host.configure.1 host.engine host.configure.2.engine := by
  rw [configure]
  split
  · exact .frame rfl rfl nofun rfl rfl
  · exact .nothing _

theorem configureAuthenticated_tells (request : ConfigureRequest width) :
    Tells (host.configureAuthenticated request).1 host.engine
      (host.configureAuthenticated request).2.engine := by
  rw [configureAuthenticated]
  split
  · exact .frame rfl rfl nofun rfl rfl
  · exact .nothing _

theorem registerAccount_tells :
    Tells host.registerAccount.1 host.engine host.registerAccount.2.engine := by
  rw [registerAccount]
  split
  · exact .frame rfl rfl nofun rfl rfl
  · exact ⟨nofun, fun _ => rfl, nofun, fun _ => .inr rfl, nofun⟩

theorem prepared_tells (request : ConfigureRequest width) (prepared copied : Bool) :
    Tells (host.prepared request prepared copied).1 host.engine
      (host.prepared request prepared copied).2.engine := by
  rw [EngineHost.prepared]
  split
  · exact .nothing _
  split
  · exact .erased rfl nofun rfl rfl
  · exact ⟨nofun, nofun, fun _ => rfl, fun other => absurd rfl other, fun other => absurd rfl other⟩

theorem joined_tells (purpose : StopPurpose) :
    Tells (host.joined purpose).1 host.engine (host.joined purpose).2.engine := by
  cases purpose with
  | startFailed => exact .erased rfl nofun rfl rfl
  | stop => exact .dropped rfl rfl rfl

theorem resume_tells (prepared copied created : Bool) :
    Tells (host.resume prepared copied created).1 host.engine
      (host.resume prepared copied created).2.engine := by
  rw [resume]
  split
  · exact .nothing _
  · next request _ => exact host.prepared_tells request prepared copied
  · exact .dropped rfl rfl rfl
  · exact .frame rfl rfl nofun rfl rfl
  · rw [awaited]
    split
    · exact .nothing _
    split
    · exact .frame rfl rfl nofun rfl rfl
    · exact .nothing _
  · rw [reactorStopping]
    split
    · exact .nothing _
    · exact .nothing _
  · rw [joining]
    split
    · exact .nothing _
    · exact .nothing _
  · next purpose _ => exact host.joined_tells purpose

theorem answered_tells (step : StartStep) (answer : NativeAnswer) :
    Tells (host.answered step answer).1 host.engine (host.answered step answer).2.engine := by
  cases answer with
  | threw => exact .nothing _
  | returned error =>
      rw [answered]
      dsimp only
      split
      · exact .erased rfl nofun rfl rfl
      · exact .nothing _

theorem checked_tells (step : StartStep) (error : Int32) (stored : Bool) (now : UInt64) :
    Tells (host.checked step error stored now).1 host.engine
      (host.checked step error stored now).2.engine := by
  rw [checked]
  split
  · exact .frame rfl rfl nofun (host.engine.passed_password now step)
      (host.engine.passed_configured now step)
  · dsimp only
    split
    · exact .erased rfl nofun rfl rfl
    split
    · exact .erased rfl nofun rfl rfl
    · exact .frame rfl rfl nofun rfl rfl

theorem ticked_tells (reading : Option TickReading) :
    Tells (host.ticked reading).1 host.engine (host.ticked reading).2.engine := by
  cases reading with
  | none => exact .nothing _
  | some reading =>
      obtain ⟨configured, password, erased⟩ := host.engine.tick_credentials reading
      rw [ticked]
      dsimp only
      split
      · exact ⟨nofun, nofun, nofun, fun _ => password.symm, fun _ _ => configured⟩
      · next failed => exact .erased rfl nofun (erased failed) configured
      · exact ⟨nofun, nofun, nofun, fun _ => password.symm, fun _ _ => configured⟩

theorem commanded_tells (observed : SipRuntimeObservation) (fate : Option CommandFate) :
    Tells (host.commanded observed fate).1 host.engine (host.commanded observed fate).2.engine := by
  cases fate with
  | none => exact .nothing _
  | some fate =>
      have configured := host.engine.carryOut_configured observed fate
      have password := (host.engine.carryOut_password observed fate).symm
      rw [commanded.eq_def]
      dsimp only
      split
      · exact .erased rfl nofun rfl configured
      · exact ⟨nofun, nofun, nofun, fun _ => password, fun _ _ => configured⟩

theorem run_tells (move : OwnerMove) :
    Tells (host.run move).1 host.engine (host.run move).2.engine := by
  rw [run.eq_def]
  split
  · split
    · exact .nothing _
    · exact .nothing _
  · split
    · exact .nothing _
    · exact .nothing _
  · next step answer _ => exact host.answered_tells step answer
  · next step error stored now _ => exact host.checked_tells step error stored now
  · exact .nothing _
  · exact .nothing _
  · next reading _ =>
      split
      · exact .nothing _
      · exact host.ticked_tells reading
  · next observed fate _ => exact host.commanded_tells observed fate
  · exact .nothing _
  · exact .erased rfl nofun rfl rfl
  · exact .nothing _
  · exact .nothing _

theorem call_tells {called : EngineObserved × EngineHost width}
    (tells : Tells called.1 host.engine called.2.engine) :
    Tells (host.call called).1 host.engine (host.call called).2.engine := by
  rcases host.call_cases called with ⟨-, same⟩ | same
  · rw [same]
    exact tells
  · rw [same]
    exact .nothing _

end EngineHost

theorem engineStep_tells (host : EngineHost width) (move : EngineMove width) :
    Tells (engineStep host move).1 host.engine (engineStep host move).2.engine := by
  cases move with
  | configure account => exact host.call_tells host.configure_tells
  | configureAuthenticated request =>
      exact host.call_tells (host.configureAuthenticated_tells request)
  | registerAccount => exact host.call_tells host.registerAccount_tells
  | stop => exact host.call_tells (.frame rfl rfl nofun rfl rfl)
  | submit command current =>
      exact host.call_tells (.frame rfl rfl nofun (host.engine.submit_password command current)
        (host.engine.submit_configured command current))
  | resume prepared copied created => exact host.resume_tells prepared copied created
  | owner move => exact host.run_tells move

/-! ## Where the threads stand -/

/-- Inside `register_account`, once the configuration has been used up. -/
def CallerPoint.Registering : CallerPoint width → Prop
  | .starting | .waiting => True
  | .stopping purpose | .joining purpose | .joined purpose => purpose = .startFailed
  | _ => False

/-- Inside `configure` or `configure_authenticated`. -/
def CallerPoint.Configuring : CallerPoint width → Prop
  | .preparing _ | .rejecting => True
  | _ => False

/-- There is no thread, or it has nothing left to do. -/
def OwnerPoint.Quiet : OwnerPoint → Prop
  | .absent | .finished => True
  | _ => False

/-- The thread has not told yet how the start went. -/
def OwnerPoint.Launching : OwnerPoint → Prop
  | .initializing | .queueing | .calling _ | .checking _ _ | .began | .threw => True
  | _ => False

def OwnerPoint.Working : OwnerPoint → Prop
  | .looping | .commanding _ | .leaving | .closing => True
  | _ => False

def OwnerPoint.Ending : OwnerPoint → Prop
  | .leaving | .closing => True
  | _ => False

/-- The steps behind the one that hands the password over. -/
def StartStep.AfterAuth : StartStep → Prop
  | .regint | .uaUpdate | .adapter | .uaRegister => True
  | _ => False

/-- The SDK has the password, or the engine has failed. -/
def OwnerPoint.Handed : OwnerPoint → Prop
  | .calling step => step.AfterAuth
  | .checking step _ => step = .auth ∨ step.AfterAuth
  | .began => True
  | _ => False

theorem OwnerPoint.Quiet.idle {point : OwnerPoint} (quiet : point.Quiet) :
    ¬ point.Working ∧ ¬ point.Launching := by
  cases point with
  | absent | finished => exact ⟨id, id⟩
  | initializing | queueing | calling _ | checking _ _ | began | threw | looping | commanding _
  | leaving | closing => exact quiet.elim

theorem OwnerPoint.Launching.early {point : OwnerPoint} (launching : point.Launching) :
    ¬ point.Working := by
  cases point with
  | initializing | queueing | calling _ | checking _ _ | began | threw => exact id
  | absent | finished | looping | commanding _ | leaving | closing => exact launching.elim

theorem OwnerPoint.Ending.working {point : OwnerPoint} (ending : point.Ending) :
    point.Working := by
  cases point with
  | leaving | closing => trivial
  | absent | finished | initializing | queueing | calling _ | checking _ _ | began | threw | looping
  | commanding _ => exact ending.elim

theorem StartStep.AfterAuth.next {step next : StartStep} (follows : step.next = some next)
    (after : next.AfterAuth) : step = .auth ∨ step.AfterAuth := by
  cases step <;> cases follows <;> first | exact after.elim | exact .inl rfl | exact .inr trivial

/-- Nothing follows the last step, which is behind the one that hands the password over. -/
theorem StartStep.AfterAuth.last {step : StartStep} (last : step.next = none) : step.AfterAuth := by
  cases step <;> cases last
  trivial

/-- The joint positions of the two threads, and who may still have the password. -/
inductive EngineHost.Sound (host : EngineHost width) : Prop
  | resting (caller : ¬ host.caller.Registering) (owner : host.reactor.worker.Quiet)
      (halted : host.reactor.status.running = false)
      (armed : host.engine.password ≠ [] → host.engine.configured = true)
  | live (caller : host.caller = .idle ∨ host.caller = .waiting ∨
        host.caller = .stopping .stop ∨ host.caller = .joining .stop)
      (owner : host.reactor.worker.Working) (running : host.reactor.status.running = true)
      (ready : host.reactor.ready = true) (spent : host.engine.configured = false)
      (erased : host.engine.password = [])
  | starting (caller : host.caller = .starting) (owner : host.reactor.worker.Quiet)
      (halted : host.reactor.status.running = false) (spent : host.engine.configured = false)
  | launching (caller : host.caller = .waiting) (owner : host.reactor.worker.Launching)
      (halted : host.reactor.status.running = false) (unready : host.reactor.ready = false)
      (spent : host.engine.configured = false)
      (erased : host.reactor.worker.Handed → host.engine.password = [])
  | failing (caller : host.caller = .waiting ∧ host.reactor.ready = true ∨
        host.caller = .stopping .startFailed ∨ host.caller = .joining .startFailed)
      (owner : host.reactor.worker.Quiet ∨ host.reactor.worker.Ending)
      (halted : host.reactor.status.running = false) (spent : host.engine.configured = false)
  | failed (caller : host.caller = .joined .startFailed) (owner : host.reactor.worker.Quiet)
      (halted : host.reactor.status.running = false) (spent : host.engine.configured = false)

namespace EngineHost

theorem sound_initial : Sound ({} : EngineHost width) :=
  .resting id trivial rfl fun stored => absurd rfl stored

variable {host : EngineHost width}

/-- Outside `register_account`, with no session running. -/
theorem Sound.resting_of (sound : host.Sound) (caller : ¬ host.caller.Registering)
    (halted : host.reactor.status.running = false) :
    host.reactor.worker.Quiet ∧ (host.engine.password ≠ [] → host.engine.configured = true) := by
  cases sound with
  | resting _ owner _ armed => exact ⟨owner, armed⟩
  | live _ _ running => cases halted.symm.trans running
  | starting same | launching same | failed same =>
      rw [same] at caller
      exact absurd (by simp [CallerPoint.Registering]) caller
  | failing same =>
      rcases same with ⟨same, -⟩ | same | same
      · rw [same] at caller
        exact absurd trivial caller
      · rw [same] at caller
        exact absurd rfl caller
      · rw [same] at caller
        exact absurd rfl caller

/-- Inside a configuration, which does not begin while a session is running. -/
theorem Sound.configuring_of (sound : host.Sound) {point : CallerPoint width}
    (at_ : host.caller = point) (caller : point.Configuring) :
    host.reactor.worker.Quiet ∧ host.reactor.status.running = false ∧
      (host.engine.password ≠ [] → host.engine.configured = true) := by
  subst at_
  cases sound with
  | resting _ owner halted armed => exact ⟨owner, halted, armed⟩
  | live same =>
      rcases same with same | same | same | same <;> rw [same] at caller <;> exact caller.elim
  | starting same | launching same | failed same =>
      rw [same] at caller
      exact caller.elim
  | failing same =>
      rcases same with ⟨same, -⟩ | same | same <;> rw [same] at caller <;> exact caller.elim

/-- A session is running. -/
theorem Sound.live_of (sound : host.Sound) (running : host.reactor.status.running = true) :
    (host.caller = .idle ∨ host.caller = .waiting ∨ host.caller = .stopping .stop ∨
      host.caller = .joining .stop) ∧ host.reactor.worker.Working ∧ host.reactor.ready = true ∧
      host.engine.configured = false ∧ host.engine.password = [] := by
  cases sound with
  | live caller owner _ ready spent erased => exact ⟨caller, owner, ready, spent, erased⟩
  | resting _ _ halted | starting _ _ halted | launching _ _ halted | failing _ _ halted
  | failed _ _ halted => cases halted.symm.trans running

/-- The thread of the reactor is starting up. -/
theorem Sound.launching_of (sound : host.Sound) {point : OwnerPoint}
    (at_ : host.reactor.worker = point) (owner : point.Launching) :
    host.caller = .waiting ∧ host.reactor.status.running = false ∧ host.reactor.ready = false ∧
      host.engine.configured = false ∧ (point.Handed → host.engine.password = []) := by
  subst at_
  cases sound with
  | launching caller _ halted unready spent erased =>
      exact ⟨caller, halted, unready, spent, erased⟩
  | resting _ quiet | starting _ quiet | failed _ quiet => exact absurd owner quiet.idle.2
  | live _ working => exact absurd working owner.early
  | failing _ standing =>
      rcases standing with quiet | ending
      · exact absurd owner quiet.idle.2
      · exact absurd ending.working owner.early

/-- Inside `register_account`, but its thread is not starting up. -/
theorem Sound.spent_of (sound : host.Sound) (caller : host.caller.Registering) :
    host.engine.configured = false := by
  cases sound with
  | resting other => exact absurd caller other
  | live _ _ _ _ spent | starting _ _ _ spent | launching _ _ _ _ spent | failing _ _ _ spent
  | failed _ _ _ spent => exact spent

/-- The password is stored only with an armed configuration, or for `register_account`. -/
theorem Sound.held (sound : host.Sound) (stored : host.engine.password ≠ []) :
    host.engine.configured = true ∨ host.caller.Registering := by
  cases sound with
  | resting _ _ _ armed => exact .inl (armed stored)
  | live _ _ _ _ _ erased => exact absurd erased stored
  | starting caller | launching caller | failed caller =>
      rw [caller]
      exact .inr (by simp [CallerPoint.Registering])
  | failing caller =>
      rcases caller with ⟨caller, -⟩ | caller | caller
      · rw [caller]
        exact .inr trivial
      · rw [caller]
        exact .inr rfl
      · rw [caller]
        exact .inr rfl

/-- The position stays as it is where the password at most is erased. -/
theorem Sound.same {other : EngineHost width} (sound : host.Sound)
    (caller : other.caller = host.caller)
    (worker : other.reactor.worker = host.reactor.worker)
    (running : other.reactor.status.running = host.reactor.status.running)
    (ready : other.reactor.ready = host.reactor.ready)
    (configured : other.engine.configured = host.engine.configured)
    (password : other.engine.password = [] ∨ other.engine.password = host.engine.password) :
    other.Sound := by
  have erased (gone : host.engine.password = []) : other.engine.password = [] := by
    rcases password with same | same
    · exact same
    · exact same.trans gone
  cases sound with
  | resting at_ owner halted armed =>
      refine .resting (caller ▸ at_) (worker ▸ owner) (running.trans halted) fun stored => ?_
      exact configured.trans (armed fun gone => stored (erased gone))
  | live at_ owner up known spent gone =>
      exact .live (caller ▸ at_) (worker ▸ owner) (running.trans up) (ready.trans known)
        (configured.trans spent) (erased gone)
  | starting at_ owner halted spent =>
      exact .starting (caller.trans at_) (worker ▸ owner) (running.trans halted)
        (configured.trans spent)
  | launching at_ owner halted unready spent gone =>
      exact .launching (caller.trans at_) (worker ▸ owner) (running.trans halted)
        (ready.trans unready) (configured.trans spent) fun handed => erased (gone (worker ▸ handed))
  | failing at_ owner halted spent =>
      refine .failing ?_ (worker ▸ owner) (running.trans halted) (configured.trans spent)
      rw [caller, ready]
      exact at_
  | failed at_ owner halted spent =>
      exact .failed (caller.trans at_) (worker ▸ owner) (running.trans halted)
        (configured.trans spent)

/-- The thread of a running session goes on. -/
theorem Sound.goes_on {other : EngineHost width} (sound : host.Sound)
    (running : host.reactor.status.running = true) (caller : other.caller = host.caller)
    (worker : other.reactor.worker.Working)
    (status : other.reactor.status.running = host.reactor.status.running)
    (ready : other.reactor.ready = host.reactor.ready)
    (configured : other.engine.configured = host.engine.configured)
    (password : other.engine.password = [] ∨ other.engine.password = host.engine.password) :
    other.Sound := by
  obtain ⟨at_, -, known, spent, erased⟩ := sound.live_of running
  refine .live (caller ▸ at_) worker (status.trans running) (ready.trans known)
    (configured.trans spent) ?_
  rcases password with same | same
  · exact same
  · exact same.trans erased

/-- The start of the thread goes on. -/
theorem Sound.launches {other : EngineHost width} (sound : host.Sound) {point : OwnerPoint}
    (owner : host.reactor.worker = point) (launching : point.Launching)
    (caller : other.caller = host.caller)
    (worker : other.reactor.worker.Launching)
    (status : other.reactor.status.running = host.reactor.status.running)
    (ready : other.reactor.ready = host.reactor.ready)
    (configured : other.engine.configured = host.engine.configured)
    (password : other.reactor.worker.Handed → other.engine.password = []) : other.Sound := by
  obtain ⟨at_, halted, unready, spent, -⟩ := sound.launching_of owner launching
  exact .launching (caller.trans at_) worker (status.trans halted) (ready.trans unready)
    (configured.trans spent) password

/-- The start of the thread has failed, and it has told. -/
theorem Sound.fails {other : EngineHost width} (sound : host.Sound) {point : OwnerPoint}
    (owner : host.reactor.worker = point) (launching : point.Launching)
    (caller : other.caller = host.caller)
    (worker : other.reactor.worker.Quiet ∨ other.reactor.worker.Ending)
    (halted : other.reactor.status.running = false) (ready : other.reactor.ready = true)
    (engine : other.engine = host.engine) : other.Sound := by
  obtain ⟨at_, -, -, spent, -⟩ := sound.launching_of owner launching
  refine .failing (.inl ⟨caller.trans at_, ready⟩) worker halted ?_
  rw [engine]
  exact spent

theorem not_registering_of_idle (idle : host.caller = .idle) : ¬ host.caller.Registering := by
  rw [idle]
  exact id

/-- A call that is made while nothing runs, and does not touch the credentials yet. -/
theorem Sound.calls (sound : host.Sound) (idle : host.caller = .idle)
    (halted : host.reactor.status.running = false) {caller : CallerPoint width}
    (outside : ¬ caller.Registering) : Sound { host with caller := caller } := by
  obtain ⟨owner, armed⟩ := sound.resting_of (not_registering_of_idle idle) halted
  exact .resting outside owner halted armed

theorem Sound.configure (sound : host.Sound) (idle : host.caller = .idle) :
    host.configure.2.Sound := by
  rw [EngineHost.configure]
  split
  · exact sound
  · next halted => exact sound.calls idle (by simpa using halted) id

theorem Sound.configureAuthenticated (sound : host.Sound) (idle : host.caller = .idle)
    (request : ConfigureRequest width) : (host.configureAuthenticated request).2.Sound := by
  rw [EngineHost.configureAuthenticated]
  split
  · exact sound
  · next halted => exact sound.calls idle (by simpa using halted) id

theorem Sound.registerAccount (sound : host.Sound) (idle : host.caller = .idle) :
    host.registerAccount.2.Sound := by
  rw [EngineHost.registerAccount]
  split
  · exact sound
  · next refused =>
      have halted : host.reactor.status.running = false := by
        by_contra running
        simp [running] at refused
      exact .starting rfl (sound.resting_of (not_registering_of_idle idle) halted).1 halted rfl

theorem Sound.stop (sound : host.Sound) (idle : host.caller = .idle) :
    Sound { host with engine := host.engine.stopping, caller := .stopping .stop } := by
  cases running : host.reactor.status.running with
  | false =>
      obtain ⟨owner, armed⟩ := sound.resting_of (not_registering_of_idle idle) running
      exact .resting nofun owner running armed
  | true =>
      obtain ⟨-, owner, ready, spent, erased⟩ := sound.live_of running
      exact .live (.inr (.inr (.inl rfl))) owner running ready spent erased

theorem Sound.prepared (sound : host.Sound) {request : ConfigureRequest width}
    (caller : host.caller = .preparing request) (prepared copied : Bool) :
    (host.prepared request prepared copied).2.Sound := by
  obtain ⟨owner, halted, armed⟩ := sound.configuring_of caller trivial
  rw [EngineHost.prepared]
  split
  · exact .resting id owner halted armed
  split
  · exact .resting id owner halted fun stored => absurd rfl stored
  · exact .resting id owner halted fun _ => rfl

theorem Sound.rejecting (sound : host.Sound) (caller : host.caller = .rejecting) :
    Sound { host with engine := host.engine.rejectConfiguration, caller := .idle } := by
  obtain ⟨owner, halted, -⟩ := sound.configuring_of caller trivial
  exact .resting id owner halted fun stored => absurd rfl stored

theorem Sound.started (sound : host.Sound) (caller : host.caller = .starting) (created : Bool) :
    (host.started created).2.Sound := by
  have registering : host.caller.Registering := by
    rw [caller]
    trivial
  have spent := sound.spent_of registering
  have standing : host.reactor.worker.Quiet ∧ host.reactor.status.running = false := by
    cases sound with
    | starting _ owner halted => exact ⟨owner, halted⟩
    | resting other => exact absurd registering other
    | launching other | failed other => cases caller.symm.trans other
    | live other =>
        rw [caller] at other
        rcases other with same | same | same | same <;> cases same
    | failing other =>
        rw [caller] at other
        rcases other with ⟨same, -⟩ | same | same <;> cases same
  rw [EngineHost.started, BaresipNativeLibreReactor.start]
  dsimp only
  split
  · cases created with
    | true => exact .launching rfl trivial rfl rfl spent nofun
    | false => exact .failing (.inr (.inl rfl)) (.inl trivial) rfl spent
  · exact .failing (.inr (.inl rfl)) (.inl standing.1) standing.2 spent

theorem Sound.awaited (sound : host.Sound) (caller : host.caller = .waiting) :
    host.awaited.2.Sound := by
  have registering : host.caller.Registering := by
    rw [caller]
    trivial
  have spent := sound.spent_of registering
  rw [EngineHost.awaited]
  split
  · exact sound
  next ready =>
  have ready : host.reactor.ready = true := by simpa using ready
  split
  · next running =>
      obtain ⟨-, owner, -, -, erased⟩ := sound.live_of running
      exact .live (.inl rfl) owner running ready spent erased
  · next halted =>
      have halted : host.reactor.status.running = false := by simpa using halted
      refine .failing (.inr (.inl rfl)) ?_ halted spent
      cases sound with
      | failing _ owner => exact owner
      | resting other => exact absurd registering other
      | live _ _ running => cases halted.symm.trans running
      | launching _ _ _ unready => cases unready.symm.trans ready
      | starting other | failed other => cases caller.symm.trans other

/-- Where a start that has failed is cleaned up. -/
theorem Sound.failing_of (sound : host.Sound)
    (caller : host.caller = .stopping .startFailed ∨ host.caller = .joining .startFailed) :
    (host.reactor.worker.Quiet ∨ host.reactor.worker.Ending) ∧
      host.reactor.status.running = false ∧ host.engine.configured = false := by
  have registering : host.caller.Registering := by
    rcases caller with same | same
    · rw [same]
      exact rfl
    · rw [same]
      exact rfl
  cases sound with
  | failing _ owner halted spent => exact ⟨owner, halted, spent⟩
  | resting other => exact absurd registering other
  | starting other | launching other | failed other =>
      rw [other] at caller
      rcases caller with same | same <;> cases same
  | live other =>
      rcases caller with caller | caller <;> rw [caller] at other <;>
        rcases other with same | same | same | same <;> cases same

theorem Sound.reactorStopping (sound : host.Sound) {purpose : StopPurpose}
    (caller : host.caller = .stopping purpose) : (host.reactorStopping purpose).2.Sound := by
  cases purpose with
  | startFailed =>
      obtain ⟨owner, halted, spent⟩ := sound.failing_of (.inl caller)
      rw [EngineHost.reactorStopping]
      split
      · next absent =>
          refine .failed rfl ?_ halted spent
          rw [absent]
          trivial
      · exact .failing (.inr (.inr rfl)) owner halted spent
  | stop =>
      have outside : ¬ host.caller.Registering := by
        rw [caller]
        exact nofun
      rw [EngineHost.reactorStopping]
      cases running : host.reactor.status.running with
      | false =>
          obtain ⟨owner, armed⟩ := sound.resting_of outside running
          split
          · exact .resting nofun owner running armed
          · exact .resting nofun owner running armed
      | true =>
          obtain ⟨-, owner, ready, spent, erased⟩ := sound.live_of running
          split
          · next absent =>
              rw [absent] at owner
              exact owner.elim
          · exact .live (.inr (.inr (.inr rfl))) owner running ready spent erased

theorem Sound.joining (sound : host.Sound) {purpose : StopPurpose}
    (caller : host.caller = .joining purpose) : (host.joining purpose).2.Sound := by
  rw [EngineHost.joining]
  split
  · next finished =>
      cases purpose with
      | startFailed =>
          obtain ⟨-, halted, spent⟩ := sound.failing_of (.inr caller)
          exact .failed rfl trivial halted spent
      | stop =>
          have outside : ¬ host.caller.Registering := by
            rw [caller]
            exact nofun
          have halted : host.reactor.status.running = false := by
            by_contra running
            obtain ⟨-, owner, -⟩ := sound.live_of (by simpa using running)
            rw [finished] at owner
            exact owner
          exact .resting nofun trivial halted (sound.resting_of outside halted).2
  · exact sound

theorem Sound.joined (sound : host.Sound) {purpose : StopPurpose}
    (caller : host.caller = .joined purpose) : (host.joined purpose).2.Sound := by
  have standing : host.reactor.worker.Quiet ∧ host.reactor.status.running = false := by
    cases sound with
    | resting _ owner halted | failed _ owner halted => exact ⟨owner, halted⟩
    | starting other | launching other => cases caller.symm.trans other
    | live other =>
        rw [caller] at other
        rcases other with same | same | same | same <;> cases same
    | failing other =>
        rw [caller] at other
        rcases other with ⟨same, -⟩ | same | same <;> cases same
  cases purpose with
  | startFailed => exact .resting id standing.1 standing.2 fun stored => absurd rfl stored
  | stop => exact .resting id standing.1 standing.2 fun stored => absurd rfl stored

theorem Sound.resume (sound : host.Sound) (prepared copied created : Bool) :
    (host.resume prepared copied created).2.Sound := by
  rw [EngineHost.resume]
  split
  · exact sound
  · next request caller => exact sound.prepared caller prepared copied
  · next caller => exact sound.rejecting caller
  · next caller => exact sound.started caller created
  · next caller => exact sound.awaited caller
  · next purpose caller => exact sound.reactorStopping caller
  · next purpose caller => exact sound.joining caller
  · next purpose caller => exact sound.joined caller

@[simp] theorem faulted_worker (reactor : BaresipNativeLibreReactor) (fault : LibreReactorFault) :
    (reactor.faulted fault).worker = reactor.worker := by
  rw [BaresipNativeLibreReactor.faulted]
  split
  · rfl
  · rfl

@[simp] theorem faulted_ready (reactor : BaresipNativeLibreReactor) (fault : LibreReactorFault) :
    (reactor.faulted fault).ready = reactor.ready := by
  rw [BaresipNativeLibreReactor.faulted]
  split
  · rfl
  · rfl

@[simp] theorem faulted_running (reactor : BaresipNativeLibreReactor) (fault : LibreReactorFault) :
    (reactor.faulted fault).status.running = reactor.status.running := by
  rw [BaresipNativeLibreReactor.faulted]
  split
  · rfl
  · rfl

theorem Sound.answered (sound : host.Sound) {step : StartStep}
    (owner : host.reactor.worker = .calling step) (answer : NativeAnswer) :
    (host.answered step answer).2.Sound := by
  obtain ⟨-, -, -, -, erased⟩ := sound.launching_of owner trivial
  cases answer with
  | threw =>
      exact sound.launches owner trivial rfl trivial (faulted_running _ _) (faulted_ready _ _) rfl
        nofun
  | returned error =>
      rw [EngineHost.answered]
      dsimp only
      split
      · exact sound.launches owner trivial rfl trivial rfl rfl rfl fun _ => rfl
      · next other =>
          exact sound.launches owner trivial rfl trivial rfl rfl rfl fun handed =>
            erased (handed.resolve_left other)

theorem Sound.checked (sound : host.Sound) {step : StartStep} {error : Int32}
    (owner : host.reactor.worker = .checking step error) (stored : Bool) (now : UInt64) :
    (host.checked step error stored now).2.Sound := by
  obtain ⟨-, -, -, -, erased⟩ := sound.launching_of owner trivial
  have configured := host.engine.passed_configured now step
  have password := host.engine.passed_password now step
  rw [EngineHost.checked]
  split
  · dsimp only
    cases follows : step.next with
    | some next =>
        refine sound.launches owner trivial rfl trivial rfl rfl configured fun after => ?_
        exact password.trans (erased (StartStep.AfterAuth.next follows after))
    | none =>
        refine sound.launches owner trivial rfl trivial rfl rfl configured fun _ => ?_
        exact password.trans (erased (.inr (StartStep.AfterAuth.last follows)))
  · dsimp only
    split
    · exact sound.launches owner trivial rfl trivial rfl rfl rfl fun _ => rfl
    split
    · exact sound.launches owner trivial rfl trivial rfl rfl rfl fun _ => rfl
    · exact sound.launches owner trivial rfl trivial (faulted_running _ _) (faulted_ready _ _) rfl
        nofun

/-- A tick that throws leaves the session to the end of the loop. -/
theorem Sound.hookFailed (sound : host.Sound) (running : host.reactor.status.running = true) :
    Sound { host with reactor := host.reactor.hookFailed } :=
  sound.goes_on running rfl trivial (faulted_running _ _) (faulted_ready _ _) rfl (.inr rfl)

/-- Where the thread works, the session runs, unless its start has failed. -/
theorem Sound.running_of (sound : host.Sound) {point : OwnerPoint}
    (at_ : host.reactor.worker = point) (owner : point.Working) (other : ¬ point.Ending) :
    host.reactor.status.running = true := by
  subst at_
  cases sound with
  | live _ _ running => exact running
  | resting _ quiet | starting _ quiet | failed _ quiet => exact absurd owner quiet.idle.1
  | launching _ launching => exact absurd owner launching.early
  | failing _ standing =>
      rcases standing with quiet | ending
      · exact absurd owner quiet.idle.1
      · exact absurd ending other

theorem Sound.ticked (sound : host.Sound) (running : host.reactor.status.running = true)
    (reading : Option TickReading) : (host.ticked reading).2.Sound := by
  cases reading with
  | none => exact sound.hookFailed running
  | some reading =>
      obtain ⟨configured, password, -⟩ := host.engine.tick_credentials reading
      rw [EngineHost.ticked]
      dsimp only
      split
      · exact sound.goes_on running rfl trivial rfl rfl configured password.symm
      · exact sound.goes_on running rfl trivial rfl rfl configured password.symm
      · exact sound.goes_on running rfl trivial rfl rfl configured password.symm

theorem Sound.commanded (sound : host.Sound) (running : host.reactor.status.running = true)
    (observed : SipRuntimeObservation) (fate : Option CommandFate) :
    (host.commanded observed fate).2.Sound := by
  cases fate with
  | none => exact sound.hookFailed running
  | some fate =>
      exact sound.goes_on running rfl trivial rfl rfl
        (host.engine.carryOut_configured observed fate)
        (host.engine.carryOut_password observed fate).symm

theorem Sound.left (sound : host.Sound) (running : host.reactor.status.running = true)
    (error : Int32) : (host.left error).2.Sound := by
  rw [EngineHost.left]
  dsimp only
  split
  · exact sound.goes_on running rfl trivial rfl rfl rfl (.inr rfl)
  · exact sound.goes_on running rfl trivial (faulted_running _ _) (faulted_ready _ _) rfl (.inr rfl)

/-- The end of the thread, of a session or of a start that has failed. -/
theorem Sound.ending_of (sound : host.Sound) {point : OwnerPoint}
    (at_ : host.reactor.worker = point) (ending : point.Ending) :
    host.reactor.status.running = true ∨ host.reactor.status.running = false ∧
      host.engine.configured = false ∧
      (host.caller = .waiting ∧ host.reactor.ready = true ∨
        host.caller = .stopping .startFailed ∨ host.caller = .joining .startFailed) := by
  subst at_
  cases sound with
  | live _ _ running => exact .inl running
  | failing caller _ halted spent => exact .inr ⟨halted, spent, caller⟩
  | resting _ quiet | starting _ quiet | failed _ quiet => exact absurd ending.working quiet.idle.1
  | launching _ launching => exact absurd ending.working launching.early

theorem Sound.ended (sound : host.Sound) (owner : host.reactor.worker = .leaving) :
    host.ended.2.Sound := by
  rcases sound.ending_of owner trivial with running | ⟨halted, spent, caller⟩
  · exact sound.goes_on running rfl trivial rfl rfl rfl (.inl rfl)
  · exact .failing caller (.inr trivial) halted spent

theorem Sound.closed (sound : host.Sound) (owner : host.reactor.worker = .closing) :
    Sound { host with
      reactor := { host.reactor with
        status := { host.reactor.status with running := false }
        worker := .finished } } := by
  rcases sound.ending_of owner trivial with running | ⟨-, spent, caller⟩
  · obtain ⟨caller, -, ready, spent, erased⟩ := sound.live_of running
    have gone : host.engine.password ≠ [] → host.engine.configured = true :=
      fun stored => absurd erased stored
    rcases caller with caller | caller | caller | caller
    · exact .resting (by rw [caller]; exact id) trivial rfl gone
    · exact .failing (.inl ⟨caller, ready⟩) (.inl trivial) rfl spent
    · exact .resting (by rw [caller]; exact nofun) trivial rfl gone
    · exact .resting (by rw [caller]; exact nofun) trivial rfl gone
  · exact .failing caller (.inl trivial) rfl spent

theorem Sound.run (sound : host.Sound) (move : OwnerMove) : (host.run move).2.Sound := by
  rw [EngineHost.run.eq_def]
  split
  · next owner =>
      split
      · exact sound.launches owner trivial rfl trivial rfl rfl rfl nofun
      · exact sound.fails owner trivial rfl (.inl trivial) rfl rfl rfl
  · next owner =>
      split
      · exact sound.launches owner trivial rfl trivial rfl rfl rfl False.elim
      · exact sound.fails owner trivial rfl (.inl trivial) rfl rfl rfl
  · next step answer owner => exact sound.answered owner answer
  · next step error stored now owner => exact sound.checked owner stored now
  · next owner =>
      obtain ⟨caller, -, -, spent, erased⟩ := sound.launching_of owner trivial
      exact .live (.inr (.inl caller)) trivial rfl rfl spent (erased trivial)
  · next owner =>
      exact sound.fails owner trivial rfl (.inr trivial) rfl rfl rfl
  · next reading owner =>
      split
      · exact sound
      · exact sound.ticked (sound.running_of owner trivial id) reading
  · next observed fate owner =>
      exact sound.commanded (sound.running_of owner trivial id) observed fate
  · next error owner => exact sound.left (sound.running_of owner trivial id) error
  · next owner => exact sound.ended owner
  · next owner => exact sound.closed owner
  · exact sound

end EngineHost

theorem EngineHost.Sound.step {host : EngineHost width} (sound : host.Sound)
    (move : EngineMove width) : (engineStep host move).2.Sound := by
  have called {called : EngineObserved × EngineHost width}
      (kept : host.caller = .idle → called.2.Sound) : (host.call called).2.Sound := by
    rcases host.call_cases called with ⟨idle, same⟩ | same
    · rw [same]
      exact kept idle
    · rw [same]
      exact sound
  cases move with
  | configure account => exact called sound.configure
  | configureAuthenticated request =>
      exact called fun idle => sound.configureAuthenticated idle request
  | registerAccount => exact called sound.registerAccount
  | stop => exact called sound.stop
  | submit command current =>
      exact called fun _ => sound.same rfl rfl rfl rfl
        (host.engine.submit_configured command current)
        (.inr (host.engine.submit_password command current))
  | resume prepared copied created => exact sound.resume prepared copied created
  | owner move => exact sound.run move

/-- Observed only where a call goes on. -/
def EngineObserved.continued : EngineObserved → Bool
  | .started | .configured .accepted => true
  | _ => false

namespace EngineHost

variable (host : EngineHost width)

theorem call_continued {called : EngineObserved × EngineHost width}
    (first : called.1.continued = false) : (host.call called).1.continued = false := by
  rcases host.call_cases called with ⟨-, same⟩ | same
  · rw [same]
    exact first
  · rw [same]
    rfl

theorem configure_continued : host.configure.1.continued = false := by
  rw [configure]
  split
  · rfl
  · rfl

theorem configureAuthenticated_continued (request : ConfigureRequest width) :
    (host.configureAuthenticated request).1.continued = false := by
  rw [configureAuthenticated]
  split
  · rfl
  · rfl

theorem registerAccount_continued : host.registerAccount.1.continued = false := by
  rw [registerAccount]
  split
  · rfl
  · rfl

theorem answered_continued (step : StartStep) (answer : NativeAnswer) :
    (host.answered step answer).1.continued = false := by
  cases answer with
  | threw => rfl
  | returned error =>
      rw [answered]
      dsimp only
      split
      · rfl
      · rfl

theorem checked_continued (step : StartStep) (error : Int32) (stored : Bool) (now : UInt64) :
    (host.checked step error stored now).1.continued = false := by
  rw [checked]
  split
  · rfl
  dsimp only
  split
  · rfl
  split
  · rfl
  · rfl

theorem ticked_continued (reading : Option TickReading) :
    (host.ticked reading).1.continued = false := by
  cases reading with
  | none => rfl
  | some reading =>
      rw [ticked]
      dsimp only
      split
      · rfl
      · rfl
      · rfl

theorem commanded_continued (observed : SipRuntimeObservation) (fate : Option CommandFate) :
    (host.commanded observed fate).1.continued = false := by
  cases fate with
  | none => rfl
  | some fate =>
      rw [commanded.eq_def]
      dsimp only
      split
      · rfl
      · rfl

theorem run_continued (move : OwnerMove) : (host.run move).1.continued = false := by
  rw [run.eq_def]
  split
  · split
    · rfl
    · rfl
  · split
    · rfl
    · rfl
  · next step answer _ => exact host.answered_continued step answer
  · next step error stored now _ => exact host.checked_continued step error stored now
  · rfl
  · rfl
  · next reading _ =>
      split
      · rfl
      · exact host.ticked_continued reading
  · next observed fate _ => exact host.commanded_continued observed fate
  · rfl
  · rfl
  · rfl
  · rfl

end EngineHost

theorem engineStep_continued {host : EngineHost width} {move : EngineMove width}
    (continued : (engineStep host move).1.continued = true) :
    ∃ prepared copied created, move = .resume prepared copied created := by
  have other {claim : Prop} (first : (engineStep host move).1.continued = false) : claim := by
    cases first.symm.trans continued
  cases move with
  | configure account => exact other (host.call_continued host.configure_continued)
  | configureAuthenticated request =>
      exact other (host.call_continued (host.configureAuthenticated_continued request))
  | registerAccount => exact other (host.call_continued host.registerAccount_continued)
  | stop => exact other (host.call_continued rfl)
  | submit command current => exact other (host.call_continued rfl)
  | resume prepared copied created => exact ⟨prepared, copied, created, rfl⟩
  | owner move => exact other (host.run_continued move)

/-- The reactor is started by a registration, which has used its configuration up. -/
theorem engineStep_started {host : EngineHost width} {move : EngineMove width}
    (started : (engineStep host move).1 = .started) : host.caller = .starting := by
  have continued : (engineStep host move).1.continued = true := by
    rw [started]
    rfl
  obtain ⟨prepared, copied, created, rfl⟩ := engineStep_continued continued
  rw [engineStep, EngineHost.resume] at started
  split at started
  · cases started
  · rw [EngineHost.prepared] at started
    split at started
    · cases started
    split at started
    · cases started
    · cases started
  · cases started
  · assumption
  · rw [EngineHost.awaited] at started
    split at started
    · cases started
    split at started
    · cases started
    · cases started
  · rw [EngineHost.reactorStopping] at started
    split at started
    · cases started
    · cases started
  · rw [EngineHost.joining] at started
    split at started
    · cases started
    · cases started
  · next purpose _ => cases purpose <;> cases started

/-- What is accepted is acceptable, and takes the place of everything configured before. -/
theorem engineStep_accepted {host : EngineHost width} {move : EngineMove width}
    (accepted : (engineStep host move).1 = .configured .accepted) :
    ∃ request, host.caller = .preparing request ∧ request.acceptable = true ∧
      (engineStep host move).2 =
        { host with engine := host.engine.committed request, caller := .idle } := by
  have continued : (engineStep host move).1.continued = true := by
    rw [accepted]
    rfl
  obtain ⟨prepared, copied, created, rfl⟩ := engineStep_continued continued
  rw [engineStep, EngineHost.resume] at accepted ⊢
  split at accepted
  · cases accepted
  · next request caller =>
      rw [caller]
      rw [EngineHost.prepared] at accepted ⊢
      split at accepted
      · cases accepted
      next fit =>
      split at accepted
      · cases accepted
      next whole =>
      rw [if_neg fit, if_neg whole]
      exact ⟨request, rfl, by simp at fit; exact fit.2, rfl⟩
  · cases accepted
  · cases accepted
  · rw [EngineHost.awaited] at accepted
    split at accepted
    · cases accepted
    split at accepted
    · cases accepted
    · cases accepted
  · rw [EngineHost.reactorStopping] at accepted
    split at accepted
    · cases accepted
    · cases accepted
  · rw [EngineHost.joining] at accepted
    split at accepted
    · cases accepted
    · cases accepted
  · next purpose _ => cases purpose <;> cases accepted

/-! ## Whole runs -/

/-- What the host remembers of its history. -/
structure EngineHost.Traced (history : List (EngineStage width)) (host : EngineHost width) :
    Prop where
  sound : host.Sound
  armed : host.engine.configured = true ↔ Outstanding Configures Disarms history
  stored : host.engine.password ≠ [] → Outstanding Configures Discards history
  unused : host.engine.configured = true ∨ host.caller = .starting →
    Outstanding Configures StartsReactor history

theorem EngineHost.traced_initial : EngineHost.Traced [] ({} : EngineHost width) where
  sound := sound_initial
  armed := ⟨nofun, fun outstanding => absurd outstanding not_outstanding_nil⟩
  stored stored := absurd rfl stored
  unused := by
    rintro (armed | starting)
    · cases armed
    · cases starting

/-- The thread of the reactor does not move the one of the interface. -/
theorem EngineHost.run_caller (host : EngineHost width) (move : OwnerMove) :
    (host.run move).2.caller = host.caller := by
  rw [run.eq_def]
  split
  · split
    · rfl
    · rfl
  · split
    · rfl
    · rfl
  · next step answer _ =>
      cases answer with
      | threw => rfl
      | returned error =>
          rw [answered]
          dsimp only
          split
          · rfl
          · rfl
  · rw [checked]
    split
    · rfl
    dsimp only
    split
    · rfl
    split
    · rfl
    · rfl
  · rfl
  · rfl
  · next reading _ =>
      split
      · rfl
      cases reading with
      | none => rfl
      | some reading =>
          rw [ticked]
          dsimp only
          split
          · rfl
          · rfl
          · rfl
  · next observed fate _ =>
      cases fate with
      | none => rfl
      | some fate => rfl
  · rfl
  · rfl
  · rfl
  · rfl

/-- A call that goes on does not come to start the reactor. -/
theorem EngineHost.resume_caller (host : EngineHost width) (prepared copied created : Bool) :
    (host.resume prepared copied created).2.caller ≠ .starting := by
  rw [resume]
  split
  · next idle =>
      rw [idle]
      nofun
  · rw [EngineHost.prepared]
    split
    · nofun
    split
    · nofun
    · nofun
  · nofun
  · rw [started]
    dsimp only
    split
    · nofun
    · nofun
  · next waiting =>
      rw [awaited]
      split
      · rw [waiting]
        nofun
      split
      · nofun
      · nofun
  · rw [reactorStopping]
    split
    · nofun
    · nofun
  · next purpose joining_ =>
      rw [joining]
      split
      · nofun
      · rw [joining_]
        nofun
  · next purpose _ => cases purpose <;> nofun

/-- Only a registration that finds a configuration comes to start the reactor. -/
theorem engineStep_starting {host : EngineHost width} {move : EngineMove width}
    (starting : (engineStep host move).2.caller = .starting) :
    host.engine.configured = true ∨ host.caller = .starting := by
  have called {called : EngineObserved × EngineHost width}
      (first : called.2.caller = .starting →
        host.engine.configured = true ∨ host.caller = .starting)
      (starting : (host.call called).2.caller = .starting) :
      host.engine.configured = true ∨ host.caller = .starting := by
    rcases host.call_cases called with ⟨-, same⟩ | same
    · rw [same] at starting
      exact first starting
    · rw [same] at starting
      exact .inr starting
  cases move with
  | configure account =>
      refine called ?_ starting
      rw [EngineHost.configure]
      split
      · exact .inr
      · nofun
  | configureAuthenticated request =>
      refine called ?_ starting
      rw [EngineHost.configureAuthenticated]
      split
      · exact .inr
      · nofun
  | registerAccount =>
      refine called ?_ starting
      rw [EngineHost.registerAccount]
      split
      · exact .inr
      · next found =>
          intro _
          simp only [Bool.or_eq_true, Bool.not_eq_true', not_or, Bool.not_eq_false] at found
          exact .inl found.1
  | stop =>
      refine called (fun other => ?_) starting
      cases other
  | submit command current => exact called .inr starting
  | resume prepared copied created =>
      exact absurd starting (host.resume_caller prepared copied created)
  | owner move => exact .inr ((host.run_caller move).symm.trans starting)

theorem EngineHost.Traced.step {history : List (EngineStage width)} {host : EngineHost width}
    (traced : host.Traced history) (move : EngineMove width) :
    (engineStep host move).2.Traced (history ++ [stageOf engineStep host move]) := by
  have tells := engineStep_tells host move
  -- Once the reactor is started there is nothing armed.
  have unstarted (armed : host.engine.configured = true ∨
      (engineStep host move).2.caller = .starting) :
      ¬ StartsReactor (stageOf engineStep host move) := by
    intro starts
    have caller := engineStep_started starts
    have spent := traced.sound.spent_of (by rw [caller]; trivial)
    rcases armed with armed | starting
    · cases spent.symm.trans armed
    · have continued : (engineStep host move).1.continued = true := by
        rw [show (engineStep host move).1 = .started from starts]
        rfl
      obtain ⟨prepared, copied, created, rfl⟩ := engineStep_continued continued
      exact host.resume_caller prepared copied created starting
  refine ⟨traced.sound.step move, ?_, ?_, ?_⟩
  · rw [outstanding_concat, ← traced.armed]
    constructor
    · intro armed
      by_cases configures : Configures (stageOf engineStep host move)
      · exact .inl configures
      have kept : ¬ Disarms (stageOf engineStep host move) := by
        intro disarms
        cases (tells.disarmed disarms).symm.trans armed
      have same := tells.configured configures (Bool.eq_false_iff.mpr kept)
      exact .inr ⟨same.symm.trans armed, kept⟩
    · rintro (configures | ⟨armed, kept⟩)
      · exact tells.armed configures
      · by_cases configures : Configures (stageOf engineStep host move)
        · exact tells.armed configures
        · exact (tells.configured configures (Bool.eq_false_iff.mpr kept)).trans armed
  · intro stored
    rw [outstanding_concat]
    by_cases configures : Configures (stageOf engineStep host move)
    · exact .inl configures
    · have same := (tells.password configures).resolve_left stored
      refine .inr ⟨traced.stored fun gone => stored (same.trans gone), fun discards => ?_⟩
      exact stored (tells.closed discards)
  · intro unused
    rw [outstanding_concat]
    by_cases configures : Configures (stageOf engineStep host move)
    · exact .inl configures
    rcases unused with armed | starting
    · have kept : (engineStep host move).1.disarms = false := by
        by_contra disarms
        cases (tells.disarmed (by simpa using disarms)).symm.trans armed
      have before := (tells.configured configures kept).symm.trans armed
      exact .inr ⟨traced.unused (.inl before), unstarted (.inl before)⟩
    · exact .inr ⟨traced.unused (engineStep_starting starting), unstarted (.inr starting)⟩

theorem EngineHost.traced_run (moves : List (EngineMove width)) :
    (finalState engineStep ({} : EngineHost width) moves).Traced (stages engineStep {} moves) := by
  have admitted : ∀ stage ∈ stages engineStep ({} : EngineHost width) moves, True :=
    fun _ _ => trivial
  exact history_invariant (fun history host => host.Traced history) (fun _ => True)
    (fun _ _ move known _ => known.step move) [] EngineHost.traced_initial admitted

/-- What is known of the credentials where a run has come to. -/
structure CredentialsKept (run : List (EngineStage width)) (host : EngineHost width) : Prop where
  /-- The password is stored between a configuration that was accepted and the first stage that
  hands it over, fails, ends, rejects or stops. -/
  stored : host.engine.password ≠ [] → Outstanding Configures Discards run
  /-- It waits for a registration, or for one that is under way. -/
  awaited : host.engine.password ≠ [] → host.engine.configured = true ∨ host.caller.Registering
  armed : host.engine.configured = true ↔ Outstanding Configures Disarms run
  /-- Between two starts of the reactor there is a configuration that was accepted. -/
  once : ∀ before start after, run = before ++ start :: after → StartsReactor start →
    Outstanding Configures StartsReactor before
  /-- What is accepted replaces the whole configuration. -/
  whole : ∀ stage ∈ run, Configures stage → ∃ request, stage.before.caller = .preparing request ∧
    request.acceptable = true ∧ stage.after.engine = stage.before.engine.committed request
  /-- Nothing is left behind a configuration that was rejected, and nothing can be registered. -/
  rejected : ∀ before stage after, run = before ++ stage :: after →
    stage.output = .configured .rejected → (∀ later ∈ after, ¬ Configures later) →
      host.engine.configured = false ∧ host.engine.password = [] ∧
        (host.caller = .idle → engineStep host .registerAccount = (.registered .refused, host))
  /-- A session is not disturbed, and nothing is found between sessions but a quiet reactor. -/
  undisturbed : host.caller = .idle →
    (host.reactor.status.running = true ↔ ¬ host.reactor.worker.Quiet) ∧
      (host.reactor.status.running = true → ∀ request,
        engineStep host (.configureAuthenticated request) = (.configured .running, host))

theorem credentials_kept (moves : List (EngineMove width)) :
    CredentialsKept (stages engineStep {} moves) (finalState engineStep {} moves) := by
  have traced := EngineHost.traced_run moves
  refine ⟨traced.stored, traced.sound.held, traced.armed, ?_, ?_, ?_, ?_⟩
  · rintro before start after run starts
    obtain ⟨first, move, rest, -, rfl, rfl, -⟩ := stages_split run
    exact (EngineHost.traced_run first).unused (.inr (engineStep_started starts))
  · refine stages_forall_of_step (fun stage => Configures stage → _)
      (fun host move configures => ?_) _ _
    obtain ⟨request, caller, acceptable, left⟩ := engineStep_accepted configures
    exact ⟨request, caller, acceptable, congrArg EngineHost.engine left⟩
  · rintro before stage after run rejected unaccepted
    have other : ¬ Configures stage := by
      intro configures
      cases rejected.symm.trans configures
    have disarms : Disarms stage := by
      rw [Disarms, rejected]
      rfl
    have discards : Discards stage := by
      rw [Discards, rejected]
      rfl
    have unarmed := not_outstanding_of_cleared before disarms other unaccepted
    have unstored := not_outstanding_of_cleared before discards other unaccepted
    rw [← run, ← traced.armed] at unarmed
    rw [← run] at unstored
    refine ⟨by simpa using unarmed, by_contra fun stored => unstored (traced.stored stored), ?_⟩
    intro idle
    rw [engineStep, EngineHost.call_idle _ idle, EngineHost.registerAccount, if_pos]
    rw [Bool.eq_false_iff.mpr unarmed]
    rfl
  · intro idle
    have outside := EngineHost.not_registering_of_idle idle
    refine ⟨⟨fun running quiet => ?_, fun busy => ?_⟩, fun running request => ?_⟩
    · obtain ⟨-, owner, -⟩ := traced.sound.live_of running
      exact quiet.idle.1 owner
    · by_contra halted
      exact busy (traced.sound.resting_of outside (by simpa using halted)).1
    · rw [engineStep, EngineHost.call_idle _ idle, EngineHost.configureAuthenticated,
        if_pos running]

/-- The password is there when the start-up throws, and gone when `register_account` returns. -/
example :
    let request : ConfigureRequest .utf16 :=
      { account := { server := wideText .utf16 "127.0.0.1", username := wideText .utf16 "1001" }
        ca := []
        password := asciiBytes "secret" }
    let go : EngineMove .utf16 := .resume true true true
    let thrown := finalState engineStep {}
      [.configureAuthenticated request, go, .registerAccount, go, .owner (.initialized 0),
        .owner (.queued 0), .owner (.answered .threw), .owner .published]
    let returned := finalState engineStep thrown
      [go, go, .owner .ended, .owner .closed, go, go, .registerAccount]
    thrown.engine.password = asciiBytes "secret" ∧ returned.engine.password = [] ∧
      returned.engine.startRejected = true ∧ returned.reactor.status.fault = .hookFailed := by
  decide +kernel

end AxeVoice.Native
