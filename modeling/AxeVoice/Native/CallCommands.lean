import AxeVoice.Native.CallEngine

/-!
# What the user was shown is what is carried out

A command names the call that the owner had published when it was submitted, and
the submission compares it with what the user was shown.  The tick that takes the
command drains the mailbox first and hears nothing more of the SDK before it
asks the port: the call that it observes is the one that the adapter holds.
-/

namespace AxeVoice.Native

open Audio Foundation Sip

variable {width : WCharWidth} {ctype : WideCtype width}

/-- The stage accepts the command. -/
def AcceptsCommand (stage : CallStage width) (command : NativeCallCommand) : Prop :=
  ∃ request, stage.input = .submit request ∧ stage.output = .submitted true ∧
    request.current stage.before.engine = true ∧
    command = { request.command with
      session := stage.before.engine.view.session
      callId := stage.before.engine.view.callId }

def TakesCommand (stage : CallStage width) : Prop := ∃ command, stage.output = .took command

def Invokes (stage : CallStage width) : Prop :=
  ∃ action session token, stage.output = .invoked action session token

/-- The command that a tick has taken and not yet carried out. -/
def EnginePoint.held : EnginePoint → Option NativeCallCommand
  | .checking _ _ pending | .dispatching _ _ pending => some pending
  | _ => none

/-- A tick is behind the point where it takes the command. -/
def EnginePoint.hasTaken : EnginePoint → Bool
  | .checking .. | .dispatching .. | .calling .. | .republishing .. | .failing (some _) => true
  | _ => false

/-- The owner relies on what its tick has observed. -/
def EnginePoint.relies : EnginePoint → Bool
  | .publishing .. | .taking .. | .checking .. | .dispatching .. => true
  | _ => false

theorem EnginePoint.held_of_not_relies {point : EnginePoint} (loose : point.relies = false) :
    point.held = none := by
  cases point with
  | checking | dispatching => cases loose
  | idle | publishing | taking | calling | republishing | failing | ending => rfl

/-- The step neither accepts a command nor takes one. -/
structure PassesBy (state : CallEngine width) (output : CallObserved) (after : CallEngine width) :
    Prop where
  untaken : ∀ command, output ≠ .took command
  queued : after.engine.command = state.engine.command ∨ after.engine.command = {}
  held : ∀ pending, after.point.held = some pending →
    state.point.held = some pending ∧ ∀ action session token, output ≠ .invoked action session token
  behind : after.point.hasTaken = true → state.point.hasTaken = true
  invoked : ∀ action session token, output = .invoked action session token →
    state.point.hasTaken = true

inductive CallStepped (state : CallEngine width) :
    CallMove width → CallObserved → CallEngine width → Prop
  | submitted {request : CallRequest} {after : CallEngine width}
      (current : request.current state.engine = true) (point : after.point = state.point)
      (command : after.engine.command = { request.command with
        session := state.engine.view.session
        callId := state.engine.view.callId }) :
      CallStepped state (.submit request) (.submitted true) after
  | took {move : CallMove width} {after : CallEngine width} (point : state.point.hasTaken = false)
      (held : after.point.held = some state.engine.command)
      (command : after.engine.command = {}) :
      CallStepped state move (.took state.engine.command) after
  | passed {move : CallMove width} {output : CallObserved} {after : CallEngine width}
      (passes : PassesBy state output after) : CallStepped state move output after

/-- A step that shows nothing and ends at a point without a command. -/
theorem passesBy_silent {state after : CallEngine width}
    (queued : after.engine.command = state.engine.command ∨ after.engine.command = {})
    (held : after.point.held = none)
    (behind : after.point.hasTaken = true → state.point.hasTaken = true) :
    PassesBy state .nothing after where
  untaken := nofun
  queued := queued
  held pending same := by
    rw [held] at same
    cases same
  behind := behind
  invoked := nofun

/-- A step that keeps the command and ends at a point outside the ticks, or before their take. -/
theorem passesBy_free {state after : CallEngine width} {point : EnginePoint}
    (command : after.engine.command = state.engine.command) (reached : after.point = point)
    (held : point.held = none) (free : point.hasTaken = false) : PassesBy state .nothing after := by
  refine passesBy_silent (.inl command) (reached ▸ held) fun behind => ?_
  rw [reached, free] at behind
  cases behind

/-- A step of another thread leaves the owner where it stands. -/
theorem passesBy_beside {state after : CallEngine width} {output : CallObserved}
    (output_eq : output = .nothing ∨ output = .submitted false)
    (queued : after.engine.command = state.engine.command ∨ after.engine.command = {})
    (point : after.point = state.point) : PassesBy state output after := by
  have silent : ∀ action session token, output ≠ .invoked action session token := by
    rintro action session token rfl
    rcases output_eq with same | same <;> cases same
  refine ⟨?_, queued, fun pending held => ⟨point ▸ held, silent⟩, fun behind => point ▸ behind,
    fun action session token shown => absurd shown (silent action session token)⟩
  rintro command rfl
  rcases output_eq with same | same <;> cases same

namespace CallEngine

variable (state : CallEngine width)

/-- The user interface leaves the command as it is, or drops it. -/
theorem uiStep_command (step : UiSection width) :
    (state.uiStep step).command = state.engine.command ∨ (state.uiStep step).command = {} := by
  cases step with
  | committed request => exact .inl rfl
  | registering => exact .inl rfl
  | recorded error => exact .inl rfl
  | stopped => exact .inl rfl
  | rejectConfiguration => exact .inr rfl
  | startFailed => exact .inr rfl
  | stopping => exact .inr rfl

theorem affected_command (engine : BaresipSipEngine width) (effect : CallEffect) :
    (engine.affected effect).command = engine.command ∨ (engine.affected effect).command = {} := by
  cases effect with
  | lost => exact .inr rfl
  | _ => exact .inl rfl

theorem coupled_enterFail {state : CallEngine width} (coupled : Coupled state.sdk)
    (next : Option (SipRuntimeObservation × BaresipSdkCallPort)) :
    Coupled (state.enterFail next).sdk := coupled_stop coupled

/-- Behind the answer of the port the owner has no command left. -/
structure Concludes (state after : CallEngine width) : Prop where
  queued : after.engine.command = state.engine.command ∨ after.engine.command = {}
  loose : after.point.relies = false
  coupled : Coupled state.sdk → Coupled after.sdk

theorem concluded_concludes (observed : SipRuntimeObservation) (port : BaresipSdkCallPort)
    (effect : CallEffect) : Concludes state (state.concluded observed port effect) := by
  cases effect with
  | lost => exact ⟨.inl rfl, rfl, fun coupled => coupled_enterFail coupled _⟩
  | applied | dtmf | muted | held => exact ⟨affected_command state.engine _, rfl, id⟩

theorem enterSdk_concludes {adapter : BaresipSdkEventAdapter}
    (same : SameButNotes state.sdk.adapter adapter) (observed : SipRuntimeObservation)
    (port : BaresipSdkCallPort) (pending : NativeCallCommand) :
    Concludes state (state.enterSdk adapter observed port pending) :=
  ⟨.inl rfl, rfl, fun coupled => coupled.noted same⟩

theorem asked_concludes (observed : SipRuntimeObservation) (port : BaresipSdkCallPort)
    (pending : NativeCallCommand) (refused : CallEffect) {asked : Option BaresipSdkEventAdapter}
    (same : ∀ adapter, asked = some adapter → SameButNotes state.sdk.adapter adapter) :
    Concludes state (state.asked observed port pending refused asked) := by
  cases asked with
  | none => exact state.concluded_concludes observed port refused
  | some adapter => exact state.enterSdk_concludes (same adapter rfl) observed port pending

theorem returned_concludes (observed : SipRuntimeObservation) (port : BaresipSdkCallPort)
    (pending : NativeCallCommand) (answers : TickAnswers width) :
    Concludes state (state.returned observed port pending answers) := by
  cases action : pending.action with
  | transfer =>
      have same := port.transferred_noted state.sdk.adapter (answers.uaIsregistered 0)
        observed.callId answers.error
      simp only [returned, action]
      exact ⟨.inl rfl, rfl, fun coupled => coupled.noted same⟩
  | none | dial | answer | hangup | setMute | setHold | dtmf =>
      simp only [returned, action]
      exact state.concluded_concludes observed port _

/-- What an admitted command comes to: the port is asked for its own action on the observed call. -/
structure Dispatches (state : CallEngine width) (observed : SipRuntimeObservation)
    (port : BaresipSdkCallPort) (pending : NativeCallCommand) (output : CallObserved)
    (after : CallEngine width) : Prop where
  concludes : Concludes state after
  untaken : ∀ command, output ≠ .took command
  named : ∀ action session token, output = .invoked action session token →
    pending.action ≠ .dial ∧ action = pending.action ∧ session = port.capturedSession ∧
      token = observed.callId

theorem dispatches_silent {observed : SipRuntimeObservation} {port : BaresipSdkCallPort}
    {pending : NativeCallCommand} {after : CallEngine width} (concludes : Concludes state after) :
    Dispatches state observed port pending .nothing after :=
  ⟨concludes, nofun, nofun⟩

theorem dispatches_invoked {observed : SipRuntimeObservation} {port : BaresipSdkCallPort}
    {pending : NativeCallCommand} (calls : pending.action ≠ .dial) {after : CallEngine width}
    (concludes : Concludes state after) :
    Dispatches state observed port pending
      (.invoked pending.action port.capturedSession observed.callId) after where
  concludes := concludes
  untaken := nofun
  named action session token same := by
    cases same
    exact ⟨calls, rfl, rfl, rfl⟩

theorem dispatch_dispatches (ctype : WideCtype width) (observed : SipRuntimeObservation)
    (port : BaresipSdkCallPort) (pending : NativeCallCommand) (answers : TickAnswers width) :
    Dispatches state observed port pending
      (state.dispatch ctype observed port pending answers).1
      (state.dispatch ctype observed port pending answers).2 := by
  have passed : Concludes state { state with point := .republishing observed port } :=
    ⟨.inl rfl, rfl, id⟩
  have invoked (calls : pending.action ≠ .dial) {after : CallEngine width}
      (concludes : Concludes state after) : Dispatches state observed port pending
        (.invoked pending.action port.capturedSession observed.callId) after :=
    state.dispatches_invoked calls concludes
  rw [dispatch.eq_def]
  cases action : pending.action with
  | none => exact state.dispatches_silent passed
  | dial =>
      dsimp only
      split
      · exact ⟨⟨.inl rfl, rfl, id⟩, nofun, nofun⟩
      · exact state.dispatches_silent passed
  | answer =>
      dsimp only
      split
      · exact action ▸ invoked (by simp [action]) (state.asked_concludes _ _ _ _ fun _ =>
          BaresipSdkCallPort.answer_noted)
      · exact state.dispatches_silent passed
  | hangup =>
      dsimp only
      split
      · exact action ▸ invoked (by simp [action]) (state.asked_concludes _ _ _ _ fun _ =>
          BaresipSdkCallPort.hangup_noted)
      · exact state.dispatches_silent passed
  | dtmf =>
      dsimp only
      refine action ▸ invoked (by simp [action]) ?_
      split
      · exact state.concluded_concludes _ _ _
      · next asked =>
          exact state.enterSdk_concludes (BaresipSdkCallPort.sendDtmfInfo_noted asked) _ _ _
  | transfer =>
      dsimp only
      refine action ▸ invoked (by simp [action]) ?_
      split
      · exact passed
      · next asked =>
          exact state.enterSdk_concludes (BaresipSdkCallPort.transfer_noted asked) _ _ _
  | setMute =>
      dsimp only
      exact action ▸ invoked (by simp [action]) (state.asked_concludes _ _ _ _ fun _ =>
        BaresipSdkCallPort.setMuted_noted)
  | setHold =>
      dsimp only
      split
      · refine action ▸ invoked (by simp [action]) ?_
        dsimp only
        split
        · exact state.concluded_concludes _ _ _
        · next asked =>
            exact state.enterSdk_concludes (BaresipSdkCallPort.setHeld_noted asked) _ _ _
      · exact state.dispatches_silent passed

/-- The owner comes to what it observes in a tick with the drain of the mailbox. -/
inductive TickBegins (state : CallEngine width) : CallEngine width → Prop
  | skipped : TickBegins state state
  | failed {after : CallEngine width} (point : after.point = .failing none)
      (command : after.engine.command = state.engine.command)
      (coupled : Coupled state.sdk → Coupled after.sdk) : TickBegins state after
  | observing {after : CallEngine width} {observed : SipRuntimeObservation}
      (point : after.point = .publishing observed (.of after.sdk.adapter))
      (command : after.engine.command = state.engine.command)
      (coupled : Coupled state.sdk → Coupled after.sdk)
      (shows : Coupled state.sdk → ShowsCall observed after.sdk.adapter) : TickBegins state after

theorem beginTick_begins (answers : TickAnswers width) :
    TickBegins state (state.beginTick answers) := by
  have coupled (known : Coupled state.sdk) :
      Coupled (state.drained (answers.uaIsregistered 0)).2.sdk := coupled_drain known _
  have shown : (sdkStep state.sdk (.drain (answers.uaIsregistered 0))).1 =
      some (state.drained (answers.uaIsregistered 0)).1 := rfl
  unfold beginTick
  split
  · exact .skipped
  dsimp only [judge]
  split
  · exact .failed rfl rfl fun known => coupled_stop (coupled known)
  · next passed =>
      simp only [Bool.or_eq_true, Bool.not_eq_true', decide_eq_true_eq, not_or, Bool.not_eq_false,
        ne_eq, not_not] at passed
      obtain ⟨⟨⟨active, verified⟩, -⟩, -⟩ := passed
      refine .observing rfl rfl coupled fun known => ?_
      rcases drain_shows known (answers.uaIsregistered 0) shown with inactive | unverified | shows
      · exact absurd (active.symm.trans inactive) Bool.noConfusion
      · exact absurd verified unverified
      · exact shows

/-- The start of the adapter fails the engine, or leaves the owner at rest. -/
structure Starts (state after : CallEngine width) : Prop where
  command : after.engine.command = state.engine.command
  point : after.point = state.point ∨ after.point = .failing none
  coupled : Coupled state.sdk → Coupled after.sdk

theorem beginAdapter_starts (ownedUa : Address) (outcome : StartOutcome) (now : UInt64) :
    Starts state (state.beginAdapter ownedUa outcome now) := by
  have started (known : Coupled state.sdk) :
      Coupled (state.withAdapter (state.sdk.adapter.start ownedUa outcome).2).sdk :=
    coupled_start known ownedUa outcome
  unfold beginAdapter
  dsimp only
  split
  · exact ⟨rfl, .inr rfl, fun known => coupled_stop (started known)⟩
  · exact ⟨rfl, .inl rfl, started⟩

/-- No native event comes between a drain and the port. -/
theorem not_relies_of_listening (hears : state.listening = true) :
    state.point.relies = false := by
  unfold listening at hears
  cases point : state.point with
  | idle | calling | failing | ending | republishing => rfl
  | publishing | taking | checking | dispatching =>
      rw [point] at hears
      cases hears

/-- The checks let only a command through that is current for what the tick observes. -/
structure Checks (state : CallEngine width) (observed : SipRuntimeObservation)
    (port : BaresipSdkCallPort) (pending : NativeCallCommand) (after : CallEngine width) :
    Prop where
  sdk : after.sdk = state.sdk
  command : after.engine.command = state.engine.command
  point : after.point = .idle ∨ after.point = .dispatching observed port pending ∧
    nativeCommandIsCurrent pending observed = true

theorem check_checks (ctype : WideCtype width) (observed : SipRuntimeObservation)
    (port : BaresipSdkCallPort) (pending : NativeCallCommand) (answers : TickAnswers width) :
    Checks state observed port pending (state.check ctype observed port pending answers) := by
  rw [check.eq_def]
  split
  · exact ⟨rfl, rfl, .inl rfl⟩
  next confirmed =>
  have current : nativeCommandIsCurrent pending observed = true := by
    simp only [Bool.or_eq_true, Bool.not_eq_true', not_or, Bool.not_eq_false] at confirmed
    exact confirmed.2
  split
  · exact ⟨rfl, rfl, .inl rfl⟩
  · refine ⟨rfl, rfl, ?_⟩
    dsimp only
    generalize Prod.fst (admitNativeAudioCommand _ _ _ _ _) = decision
    cases decision.allowed with
    | false => exact .inl rfl
    | true => exact .inr ⟨rfl, current⟩

theorem ownerStep_stepped (ctype : WideCtype width) (move : CallMove width)
    (answers : TickAnswers width) :
    CallStepped state move (state.ownerStep ctype answers).1 (state.ownerStep ctype answers).2 := by
  cases point : state.point with
  | idle =>
      simp only [ownerStep, point]
      exact .passed (passesBy_beside (.inl rfl) (.inl rfl) rfl)
  | publishing observed port =>
      simp only [ownerStep, point]
      exact .passed (passesBy_silent (.inl rfl) rfl nofun)
  | taking observed port =>
      simp only [ownerStep, point]
      exact .took (by rw [point]; rfl) rfl rfl
  | checking observed port pending =>
      simp only [ownerStep, point]
      have checks := state.check_checks ctype observed port pending answers
      refine .passed
        ⟨nofun, .inl checks.command, fun command held => ⟨?_, nofun⟩, fun _ => ?_, nofun⟩
      · rcases checks.point with idle | ⟨dispatching, -⟩
        · rw [idle] at held
          cases held
        · rw [dispatching] at held
          rw [point]
          exact held
      · rw [point]
        rfl
  | dispatching observed port pending =>
      simp only [ownerStep, point]
      have dispatches := state.dispatch_dispatches ctype observed port pending answers
      have behind : state.point.hasTaken = true := by
        rw [point]
        rfl
      refine .passed ⟨dispatches.untaken, dispatches.concludes.queued, fun command held => ?_,
        fun _ => behind, fun _ _ _ _ => behind⟩
      rw [EnginePoint.held_of_not_relies dispatches.concludes.loose] at held
      cases held
  | calling observed port pending =>
      simp only [ownerStep, point]
      have concludes := state.returned_concludes observed port pending answers
      have behind : state.point.hasTaken = true := by
        rw [point]
        rfl
      exact .passed (passesBy_silent concludes.queued
        (EnginePoint.held_of_not_relies concludes.loose) fun _ => behind)
  | republishing observed port =>
      simp only [ownerStep, point]
      exact .passed (passesBy_silent (.inl rfl) rfl nofun)
  | failing next =>
      simp only [ownerStep, point]
      cases next with
      | none => exact .passed (passesBy_silent (.inr rfl) rfl nofun)
      | some next => exact .passed (passesBy_silent (.inr rfl) rfl fun _ => by rw [point]; rfl)
  | ending fault =>
      simp only [ownerStep, point]
      exact .passed (passesBy_silent (.inr rfl) rfl nofun)

end CallEngine

theorem callStep_stepped (ctype : WideCtype width) (state : CallEngine width)
    (move : CallMove width) :
    CallStepped state move (callStep ctype state move).1 (callStep ctype state move).2 := by
  have resting : CallStepped state move .nothing state :=
    .passed (passesBy_beside (.inl rfl) (.inl rfl) rfl)
  cases move with
  | submit request =>
      simp only [callStep, BaresipSipEngine.submit]
      split
      · exact .passed (passesBy_beside (.inr rfl) (.inl rfl) rfl)
      · next accepted =>
          simp only [Bool.or_eq_true, Bool.not_eq_true', not_or, Bool.not_eq_false] at accepted
          exact .submitted accepted.2 rfl rfl
  | ui step => exact .passed (passesBy_beside (.inl rfl) (state.uiStep_command step) rfl)
  | begin ownedUa outcome now =>
      simp only [callStep]
      split
      · exact resting
      · have starts := state.beginAdapter_starts ownedUa outcome now
        rcases starts.point with same | failing
        · exact .passed (passesBy_beside (.inl rfl) (.inl starts.command) same)
        · exact .passed (passesBy_free starts.command failing rfl rfl)
  | beginFails =>
      simp only [callStep]
      split
      · exact resting
      · exact .passed (passesBy_silent (.inl rfl) rfl nofun)
  | tick answers =>
      simp only [callStep]
      split
      · exact resting
      · have begins := state.beginTick_begins answers
        generalize state.beginTick answers = after at begins
        cases begins with
        | skipped => exact resting
        | failed point command => exact .passed (passesBy_free command point rfl rfl)
        | observing point command => exact .passed (passesBy_free command point rfl rfl)
  | owner answers => exact state.ownerStep_stepped ctype _ answers
  | throws => exact .passed (passesBy_silent (.inl rfl) rfl nofun)
  | deliver delivery context =>
      simp only [callStep]
      split
      · exact resting
      · exact .passed (passesBy_beside (.inl rfl) (.inl rfl) rfl)
  | ends fault =>
      simp only [callStep]
      split
      · exact resting
      · exact .passed (passesBy_silent (.inl rfl) rfl nofun)

/-! ## The observed call -/

/-- The tick observes the call that the adapter holds, in the session of its port. -/
structure Sees (adapter : BaresipSdkEventAdapter) (observed : SipRuntimeObservation)
    (port : BaresipSdkCallPort) : Prop where
  shows : ShowsCall observed adapter
  captured : port.capturedSession = adapter.session

/-- What holds of the adapter where the owner stands. -/
def EnginePoint.Sees (adapter : BaresipSdkEventAdapter) : EnginePoint → Prop
  | .publishing observed port | .taking observed port | .checking observed port _ =>
      Native.Sees adapter observed port
  | .dispatching observed port pending =>
      Native.Sees adapter observed port ∧ nativeCommandIsCurrent pending observed = true
  | _ => True

theorem EnginePoint.sees_of_not_relies {point : EnginePoint} (loose : point.relies = false)
    (adapter : BaresipSdkEventAdapter) : point.Sees adapter := by
  cases point with
  | publishing | taking | checking | dispatching => cases loose
  | idle | calling | republishing | failing | ending => trivial

structure Grounded (state : CallEngine width) : Prop where
  coupled : Coupled state.sdk
  sees : state.point.Sees state.sdk.adapter

theorem grounded_initial : Grounded ({} : CallEngine width) := ⟨coupled_initial, trivial⟩

namespace Grounded

variable {state : CallEngine width}

theorem ownerStep (grounded : Grounded state) (ctype : WideCtype width)
    (answers : TickAnswers width) : Grounded (state.ownerStep ctype answers).2 := by
  obtain ⟨coupled, sees⟩ := grounded
  cases point : state.point with
  | idle =>
      simp only [CallEngine.ownerStep, point]
      exact ⟨coupled, point ▸ trivial⟩
  | publishing observed port =>
      simp only [CallEngine.ownerStep, point]
      rw [point] at sees
      exact ⟨coupled, sees⟩
  | taking observed port =>
      simp only [CallEngine.ownerStep, point]
      rw [point] at sees
      exact ⟨coupled, sees⟩
  | checking observed port pending =>
      simp only [CallEngine.ownerStep, point]
      rw [point] at sees
      have checks := state.check_checks ctype observed port pending answers
      refine ⟨checks.sdk ▸ coupled, ?_⟩
      rw [checks.sdk]
      rcases checks.point with idle | ⟨dispatching, current⟩
      · exact idle ▸ trivial
      · exact dispatching ▸ ⟨sees, current⟩
  | dispatching observed port pending =>
      simp only [CallEngine.ownerStep, point]
      have concludes := (state.dispatch_dispatches ctype observed port pending answers).concludes
      exact ⟨concludes.coupled coupled, EnginePoint.sees_of_not_relies concludes.loose _⟩
  | calling observed port pending =>
      simp only [CallEngine.ownerStep, point]
      have concludes := state.returned_concludes observed port pending answers
      exact ⟨concludes.coupled coupled, EnginePoint.sees_of_not_relies concludes.loose _⟩
  | republishing observed port =>
      simp only [CallEngine.ownerStep, point]
      exact ⟨coupled, trivial⟩
  | failing next =>
      simp only [CallEngine.ownerStep, point]
      cases next with
      | none => exact ⟨coupled, trivial⟩
      | some next => exact ⟨coupled, trivial⟩
  | ending fault =>
      simp only [CallEngine.ownerStep, point]
      exact ⟨coupled, trivial⟩

theorem step (grounded : Grounded state) (ctype : WideCtype width) (move : CallMove width) :
    Grounded (callStep ctype state move).2 := by
  cases move with
  | submit request =>
      simp only [callStep, BaresipSipEngine.submit]
      split
      · exact grounded
      · exact ⟨grounded.coupled, grounded.sees⟩
  | ui step => exact ⟨grounded.coupled, grounded.sees⟩
  | begin ownedUa outcome now =>
      simp only [callStep]
      split
      · exact grounded
      · next idle =>
          have starts := state.beginAdapter_starts ownedUa outcome now
          refine ⟨starts.coupled grounded.coupled, EnginePoint.sees_of_not_relies ?_ _⟩
          rcases starts.point with same | failing
          · rw [same, not_not.mp idle]
            rfl
          · rw [failing]
            rfl
  | beginFails =>
      simp only [callStep]
      split
      · exact grounded
      · exact ⟨coupled_stop grounded.coupled, trivial⟩
  | tick answers =>
      simp only [callStep]
      split
      · exact grounded
      · have begins := state.beginTick_begins answers
        generalize state.beginTick answers = after at begins
        cases begins with
        | skipped => exact grounded
        | failed point _ coupled => exact ⟨coupled grounded.coupled, point ▸ trivial⟩
        | observing point _ coupled shows =>
            refine ⟨coupled grounded.coupled, ?_⟩
            rw [point]
            exact ⟨shows grounded.coupled, rfl⟩
  | owner answers => exact grounded.ownerStep ctype answers
  | throws => exact ⟨grounded.coupled, trivial⟩
  | deliver delivery context =>
      simp only [callStep]
      split
      · exact grounded
      · next listening =>
          have hears : state.listening = true := by simpa using listening
          exact ⟨coupled_deliver grounded.coupled delivery context,
            EnginePoint.sees_of_not_relies (state.not_relies_of_listening hears) _⟩
  | ends fault =>
      simp only [callStep]
      split
      · exact grounded
      · exact ⟨coupled_stop grounded.coupled, trivial⟩

end Grounded

theorem silent_of_submitted {stage : CallStage width} {accepted : Bool}
    (shown : stage.output = .submitted accepted) : ¬ TakesCommand stage ∧ ¬ Invokes stage := by
  constructor
  · rintro ⟨command, same⟩
    cases shown.symm.trans same
  · rintro ⟨action, session, token, same⟩
    cases shown.symm.trans same

/-- The command was accepted behind `older`, and no tick has taken one since. -/
structure QueuedCommand (history older : List (CallStage width)) (submit : CallStage width)
    (between : List (CallStage width)) (point : EnginePoint) (command : NativeCallCommand) :
    Prop where
  split : history = older ++ submit :: between
  accepted : AcceptsCommand submit command
  untaken : ∀ stage ∈ between, ¬ TakesCommand stage
  fresh : submit.before.point.hasTaken = false →
    point.hasTaken = false ∧ ∀ stage ∈ between, ¬ Invokes stage

/--
The command was accepted behind `older`; the next command to be taken is this one,
and nothing was carried out since.  Nothing was carried out before that either,
unless the submission came between the taking and the end of a tick.
-/
structure TakenCommand (history older : List (CallStage width)) (submit : CallStage width)
    (between : List (CallStage width)) (take : CallStage width) (during : List (CallStage width))
    (command : NativeCallCommand) : Prop where
  split : history = older ++ submit :: (between ++ take :: during)
  accepted : AcceptsCommand submit command
  untaken : ∀ stage ∈ between, ¬ TakesCommand stage
  takes : take.output = .took command
  quiet : ∀ stage ∈ during, ¬ TakesCommand stage ∧ ¬ Invokes stage
  fresh : submit.before.point.hasTaken = false → ∀ stage ∈ between, ¬ Invokes stage

section History

variable {history older between during : List (CallStage width)}
  {submit take last : CallStage width} {point : EnginePoint} {command : NativeCallCommand}

theorem QueuedCommand.extend (queued : QueuedCommand history older submit between point command)
    (untaken : ¬ TakesCommand last) {next : EnginePoint}
    (behind : next.hasTaken = true → point.hasTaken = true)
    (invoked : Invokes last → point.hasTaken = true) :
    QueuedCommand (history ++ [last]) older submit (between ++ [last]) next command where
  split := by rw [queued.split, List.append_assoc, List.cons_append]
  accepted := queued.accepted
  untaken := forall_mem_concat queued.untaken untaken
  fresh outside := by
    obtain ⟨before, silent⟩ := queued.fresh outside
    refine ⟨?_, forall_mem_concat silent fun invokes => ?_⟩
    · by_contra taken
      have known := behind (by simpa using taken)
      rw [before] at known
      cases known
    · have known := invoked invokes
      rw [before] at known
      cases known

theorem QueuedCommand.taken (queued : QueuedCommand history older submit between point command)
    (takes : last.output = .took command) :
    TakenCommand (history ++ [last]) older submit between last [] command where
  split := by rw [queued.split, List.append_assoc, List.cons_append]
  accepted := queued.accepted
  untaken := queued.untaken
  takes := takes
  quiet := by simp
  fresh outside := (queued.fresh outside).2

theorem TakenCommand.extend (taken : TakenCommand history older submit between take during command)
    (silent : ¬ TakesCommand last ∧ ¬ Invokes last) :
    TakenCommand (history ++ [last]) older submit between take (during ++ [last]) command where
  split := by
    rw [taken.split]
    simp only [List.append_assoc, List.cons_append]
  accepted := taken.accepted
  untaken := taken.untaken
  takes := taken.takes
  quiet := forall_mem_concat taken.quiet silent
  fresh := taken.fresh

end History

/-- Where the commands of the engine come from. -/
structure CommandsKnown (history : List (CallStage width)) (state : CallEngine width) : Prop where
  queued : state.engine.command.action ≠ .none →
    ∃ older submit between,
      QueuedCommand history older submit between state.point state.engine.command
  held : ∀ pending, state.point.held = some pending → pending.action ≠ .none →
    ∃ older submit between take during,
      TakenCommand history older submit between take during pending

theorem commandsKnown_initial : CommandsKnown [] ({} : CallEngine width) :=
  ⟨fun some => absurd rfl some, nofun⟩

theorem CommandsKnown.extend {history : List (CallStage width)} {state after : CallEngine width}
    (known : CommandsKnown history state) {move : CallMove width} {output : CallObserved}
    (stepped : CallStepped state move output after) :
    CommandsKnown (history ++ [⟨state, move, output, after⟩]) after := by
  cases stepped with
  | submitted current point command =>
      constructor
      · intro _
        refine ⟨history, _, [], rfl, ⟨_, rfl, rfl, current, command⟩, by simp, fun outside => ?_⟩
        exact ⟨point ▸ outside, by simp⟩
      · intro pending held some
        rw [point] at held
        obtain ⟨older, submit, between, take, during, taken⟩ := known.held pending held some
        exact ⟨older, submit, between, take, _, taken.extend (silent_of_submitted rfl)⟩
  | took point held command =>
      constructor
      · intro some
        rw [command] at some
        exact absurd rfl some
      · intro pending same some
        cases held.symm.trans same
        obtain ⟨older, submit, between, queued⟩ := known.queued some
        exact ⟨older, submit, between, _, [], queued.taken rfl⟩
  | passed passes =>
      have untaken : ¬ TakesCommand (⟨state, move, output, after⟩ : CallStage width) := by
        rintro ⟨command, same⟩
        exact passes.untaken command same
      constructor
      · intro some
        rcases passes.queued with same | dropped
        · rw [same] at some ⊢
          obtain ⟨older, submit, between, queued⟩ := known.queued some
          refine ⟨older, submit, _, queued.extend untaken passes.behind ?_⟩
          rintro ⟨action, session, token, shown⟩
          exact passes.invoked action session token shown
        · rw [dropped] at some
          exact absurd rfl some
      · intro pending held some
        obtain ⟨before, silent⟩ := passes.held pending held
        obtain ⟨older, submit, between, take, during, taken⟩ := known.held pending before some
        refine ⟨older, submit, between, take, _, taken.extend ⟨untaken, ?_⟩⟩
        rintro ⟨action, session, token, shown⟩
        exact silent action session token shown

/-! ## What the user was shown -/

theorem actionIsCurrent_of_current {command : NativeCallCommand} {state : SipRuntimeObservation}
    (current : nativeCommandIsCurrent command state = true) :
    actionIsCurrent command state = true := by
  rw [nativeCommandIsCurrent] at current
  split at current
  · cases current
  · exact current

theorem displayedCommand_current {action : NativeCallAction}
    {displayed current : SipRuntimeObservation}
    (known : nativeDisplayedCallCommandCurrent action displayed current = true) :
    displayed.session = current.session ∧ displayed.callId = current.callId ∧
      actionIsCurrent { action := action } displayed = true := by
  rw [nativeDisplayedCallCommandCurrent] at known
  split at known
  · cases known
  next call =>
  simp only [Bool.and_eq_true] at known
  obtain ⟨session, callId, -⟩ := current_names known.2
  refine ⟨session, callId, ?_⟩
  have allowed := actionIsCurrent_of_current known.1
  cases action with
  | answer | hangup => exact allowed
  | none | dial | setMute | setHold | transfer | dtmf => simp at call

theorem mediaControls_current {media : NativeCallMediaState} {call : SipRuntimeObservation}
    (current : nativeMediaControlsCurrent media call = true) :
    media.session = call.session ∧ media.callId = call.callId ∧ media.available = true ∧
      call.sip = .inCall := by
  simp only [nativeMediaControlsCurrent, Bool.and_eq_true, decide_eq_true_eq] at current
  obtain ⟨⟨⟨⟨available, -⟩, callId⟩, inCall⟩, proof⟩ := current
  obtain ⟨-, -, -, session⟩ := (sipProofIsCurrent_iff call media.session).mp proof
  exact ⟨session.symm, callId, available, inCall⟩

/-- What the user was shown names the call, with a status that allows the action. -/
def CallRequest.Shows (request : CallRequest) (session token : UInt64) : Prop :=
  match request.action with
  | .none | .dial => False
  | .answer => ∃ displayed, request.displayed = some displayed ∧ displayed.session = session ∧
      displayed.callId = token ∧ displayed.sip = .ringing
  | .hangup => ∃ displayed, request.displayed = some displayed ∧ displayed.session = session ∧
      displayed.callId = token ∧
        (displayed.sip = .calling ∨ displayed.sip = .ringing ∨ displayed.sip = .inCall)
  | .setMute | .setHold | .transfer => ∃ expected, request.expected = some expected ∧
      expected.session = session ∧ expected.callId = token ∧ expected.available = true
  | .dtmf => ∃ expected, request.expected = some expected ∧ expected.session = session ∧
      expected.callId = token ∧ expected.available = true ∧ expected.localHold = false ∧
        expected.transfer = .none

theorem CallRequest.controlled_expected {request : CallRequest} {engine : BaresipSipEngine width}
    {current : NativeCallMediaState → SipRuntimeObservation → Bool}
    (controlled : request.controlled engine current = true) :
    ∃ expected, request.expected = some expected ∧ current expected engine.view = true := by
  unfold CallRequest.controlled at controlled
  split at controlled
  · cases controlled
  · next expected known =>
      rw [Bool.and_eq_true] at controlled
      exact ⟨expected, known, controlled.1⟩

theorem CallRequest.displays_displayed {request : CallRequest} {engine : BaresipSipEngine width}
    (displays : request.displays engine = true) :
    ∃ displayed, request.displayed = some displayed ∧
      displayed.session = engine.view.session ∧ displayed.callId = engine.view.callId ∧
        actionIsCurrent { action := request.action } displayed = true := by
  unfold CallRequest.displays at displays
  split at displays
  · cases displays
  · next displayed known => exact ⟨displayed, known, displayedCommand_current displays⟩

/-- A request that is current shows the call that the engine has published. -/
theorem CallRequest.shows_of_current {request : CallRequest} {engine : BaresipSipEngine width}
    (current : request.current engine = true) (acts : request.action ≠ .none)
    (calls : request.action ≠ .dial) : request.Shows engine.view.session engine.view.callId := by
  unfold CallRequest.current at current
  unfold CallRequest.Shows
  cases action : request.action with
  | none => exact acts action
  | dial => exact calls action
  | answer =>
      simp only [action, Bool.and_eq_true] at current
      obtain ⟨displayed, known, session, callId, allowed⟩ :=
        CallRequest.displays_displayed current.2
      simp only [actionIsCurrent, action, Bool.and_eq_true, decide_eq_true_eq] at allowed
      exact ⟨displayed, known, session, callId, allowed.1⟩
  | hangup =>
      simp only [action, Bool.and_eq_true] at current
      obtain ⟨displayed, known, session, callId, allowed⟩ :=
        CallRequest.displays_displayed current.2
      simp only [actionIsCurrent, action, Bool.and_eq_true, Bool.or_eq_true,
        decide_eq_true_eq, or_assoc] at allowed
      exact ⟨displayed, known, session, callId, allowed.2⟩
  | setMute | setHold =>
      simp only [action] at current
      obtain ⟨expected, known, media⟩ := CallRequest.controlled_expected current
      obtain ⟨session, callId, available, -⟩ := mediaControls_current media
      exact ⟨expected, known, session, callId, available⟩
  | transfer =>
      simp only [action, Bool.and_eq_true] at current
      obtain ⟨expected, known, media⟩ := CallRequest.controlled_expected current.1
      obtain ⟨session, callId, available, -⟩ := mediaControls_current media
      exact ⟨expected, known, session, callId, available⟩
  | dtmf =>
      simp only [action, Bool.and_eq_true] at current
      obtain ⟨expected, known, digits⟩ := CallRequest.controlled_expected current.1
      simp only [nativeDtmfControlsCurrent, Bool.and_eq_true, Bool.not_eq_true',
        decide_eq_true_eq] at digits
      obtain ⟨session, callId, available, -⟩ := mediaControls_current digits.1.1
      exact ⟨expected, known, session, callId, available, digits.1.2, digits.2⟩

/-- Only an admitted command makes the owner ask the port. -/
theorem callStep_invoked {state : CallEngine width} {move : CallMove width}
    {action : NativeCallAction} {session token : UInt64}
    (shown : (callStep ctype state move).1 = .invoked action session token) :
    ∃ observed port pending, state.point = .dispatching observed port pending ∧
      pending.action ≠ .dial ∧ action = pending.action ∧ session = port.capturedSession ∧
        token = observed.callId := by
  cases move with
  | owner answers =>
      cases point : state.point with
      | dispatching observed port pending =>
          simp only [callStep, CallEngine.ownerStep, point] at shown
          exact ⟨observed, port, pending, rfl,
            (state.dispatch_dispatches ctype observed port pending answers).named _ _ _ shown⟩
      | idle | publishing | taking | checking | calling | republishing | failing | ending =>
          simp only [callStep, CallEngine.ownerStep, point] at shown
          cases shown
  | submit | ui | throws => cases shown
  | begin | beginFails | tick | deliver | ends =>
      simp only [callStep] at shown
      split at shown <;> cases shown

/-- Behind every step the history tells where the commands come from. -/
theorem commandsKnown_run (ctype : WideCtype width) (moves : List (CallMove width)) :
    Grounded (finalState (callStep ctype) {} moves) ∧
      CommandsKnown (stages (callStep ctype) {} moves) (finalState (callStep ctype) {} moves) := by
  have kept : Grounded (finalState (callStep ctype) {} moves) ∧ CommandsKnown
      ([] ++ stages (callStep ctype) {} moves) (finalState (callStep ctype) {} moves) :=
    history_invariant (fun history state => Grounded state ∧ CommandsKnown history state)
      (fun _ => True)
      (fun _ state move known _ =>
        ⟨known.1.step ctype move, known.2.extend (callStep_stepped ctype state move)⟩)
      [] ⟨grounded_initial, commandsKnown_initial⟩ fun _ _ => trivial
  rwa [List.nil_append] at kept

/--
What is carried out behind `before` was submitted behind `older`, on the call that was
shown, and has been taken since then.
-/
structure Executes (before older : List (CallStage width)) (submit : CallStage width)
    (action : NativeCallAction) (session token : UInt64) : Prop where
  taken : ∃ between take during command,
    TakenCommand before older submit between take during command ∧ command.action = action ∧
      command.session = session ∧ command.callId = token
  shown : ∃ request, submit.input = .submit request ∧ submit.output = .submitted true ∧
    request.action = action ∧ request.Shows session token

/-- A tick carries out what it has taken, on the call of the user. -/
theorem executes_invoked {before : List (CallStage width)} {state : CallEngine width}
    (grounded : Grounded state) (known : CommandsKnown before state) {move : CallMove width}
    {action : NativeCallAction} {session token : UInt64}
    (shown : (callStep ctype state move).1 = .invoked action session token) :
    (state.sdk.adapter.session = session ∧ state.sdk.adapter.activeToken = token) ∧
      ∃ older submit, Executes before older submit action session token := by
  obtain ⟨observed, port, pending, point, calls, rfl, rfl, rfl⟩ := callStep_invoked shown
  have sees := grounded.sees
  rw [point] at sees
  obtain ⟨⟨shows, captured⟩, current⟩ := sees
  obtain ⟨session, callId, -⟩ := current_names current
  have acts : pending.action ≠ .none := by
    intro none
    have allowed := actionIsCurrent_of_current current
    rw [actionIsCurrent, none] at allowed
    cases allowed
  refine ⟨⟨captured.symm, shows.callId.symm⟩, ?_⟩
  have held : state.point.held = some pending := by
    rw [point]
    rfl
  obtain ⟨older, submit, between, take, during, taken⟩ := known.held pending held acts
  have named : pending.session = port.capturedSession := by rw [session, shows.session, captured]
  refine ⟨older, submit, ⟨between, take, during, pending, taken, rfl, named, callId⟩, ?_⟩
  obtain ⟨request, input, output, allowed, rfl⟩ := taken.accepted
  have shown := CallRequest.shows_of_current allowed acts calls
  rw [← named, ← callId]
  exact ⟨request, input, output, rfl, shown⟩

/-- What a submission outside the ticks left was taken after everything that was carried out. -/
theorem Executes.since {before older : List (CallStage width)} {submit : CallStage width}
    {action : NativeCallAction} {session token : UInt64}
    (executes : Executes before older submit action session token) :
    ∃ rest, before = older ++ submit :: rest ∧
      (submit.before.point.hasTaken = false → ∀ stage ∈ rest, ¬ Invokes stage) := by
  obtain ⟨⟨between, take, during, command, taken, -⟩, -⟩ := executes
  refine ⟨_, taken.split, fun outside stage member => ?_⟩
  rcases List.mem_append.mp member with waiting | behind
  · exact taken.fresh outside stage waiting
  · rcases List.mem_cons.mp behind with rfl | later
    · rintro ⟨action, session, token, shown⟩
      cases taken.takes.symm.trans shown
    · exact (taken.quiet stage later).2

/-- A submission that is carried out comes behind the one that was carried out before. -/
theorem Executes.later {before older middle older' : List (CallStage width)}
    {submit first submit' : CallStage width} {action action' : NativeCallAction}
    {session token session' token' : UInt64}
    (executes : Executes before older submit action session token) (invokes : Invokes first)
    (again : Executes (before ++ first :: middle) older' submit' action' session' token') :
    older.length < older'.length := by
  obtain ⟨⟨between, take, during, command, taken, -⟩, -⟩ := executes
  obtain ⟨⟨between', take', during', command', taken', -⟩, request, -, accepted, -⟩ := again
  -- The first command is carried out before the second one is taken.
  have split := taken'.split
  rw [← List.cons_append, ← List.append_assoc] at split
  rcases splits_compare split with ⟨gap, waiting⟩ | rfl | ⟨gap, -, behind⟩
  · -- So the second submission comes behind the taking of the first command.
    rw [taken.split, ← List.cons_append, ← List.append_assoc, List.append_assoc,
      List.cons_append] at waiting
    rcases splits_compare waiting.symm with ⟨rest, long⟩ | rfl | ⟨rest, -, kept⟩
    · rw [long]
      simp only [List.length_append, List.length_cons]
      omega
    · cases taken.takes.symm.trans accepted
    · have member : take ∈ between' := kept ▸ List.mem_append_right rest List.mem_cons_self
      exact absurd ⟨command, taken.takes⟩ (taken'.untaken take member)
  · obtain ⟨action, session, token, shown⟩ := invokes
    cases taken'.takes.symm.trans shown
  · have member : first ∈ during' := behind ▸ List.mem_append_right gap List.mem_cons_self
    exact absurd invokes (taken'.quiet first member).2

/-- The owner asks its port only for what the user has submitted, on the call that was shown. -/
structure ActsOnShown (run : List (CallStage width)) : Prop where
  /--
  The submission comes behind everything that was carried out before, unless it falls
  into a tick that has its command already.
  -/
  submitted : ∀ before stage after action session token, run = before ++ stage :: after →
    stage.output = .invoked action session token →
      ∃ older submit rest, before = older ++ submit :: rest ∧
        Executes before older submit action session token ∧
          (submit.before.point.hasTaken = false → ∀ stage ∈ rest, ¬ Invokes stage)
  /-- The adapter holds the call at the moment. -/
  held : ∀ stage ∈ run, ∀ action session token, stage.output = .invoked action session token →
    stage.before.sdk.adapter.session = session ∧ stage.before.sdk.adapter.activeToken = token
  once : ∀ before first middle second after older submit older' submit' action action' session
    session' token token', run = before ++ first :: (middle ++ second :: after) →
      first.output = .invoked action session token →
      second.output = .invoked action' session' token' →
      Executes before older submit action session token →
      Executes (before ++ first :: middle) older' submit' action' session' token' →
        older.length < older'.length

theorem commands_act_on_shown (ctype : WideCtype width) (moves : List (CallMove width)) :
    ActsOnShown (stages (callStep ctype) {} moves) := by
  have each : ∀ before stage after action session token,
      stages (callStep ctype) {} moves = before ++ stage :: after →
      stage.output = .invoked action session token →
        (stage.before.sdk.adapter.session = session ∧
          stage.before.sdk.adapter.activeToken = token) ∧
            ∃ older submit, Executes before older submit action session token := by
    intro before stage after action session token split shown
    obtain ⟨first, move, -, -, rfl, rfl, -⟩ := stages_split split
    obtain ⟨grounded, known⟩ := commandsKnown_run ctype first
    exact executes_invoked grounded known shown
  constructor
  · intro before stage after action session token split shown
    obtain ⟨-, older, submit, executes⟩ := each before stage after action session token split shown
    obtain ⟨rest, behind, fresh⟩ := executes.since
    exact ⟨older, submit, rest, behind, executes, fresh⟩
  · intro stage member action session token shown
    obtain ⟨before, after, split⟩ := List.append_of_mem member
    exact (each before stage after action session token split shown).1
  · intro before first middle second after older submit older' submit' action action' session
      session' token token' _ shown _ executes again
    exact executes.later ⟨action, session, token, shown⟩ again

/-- The SDK and the devices are willing. -/
def willing : TickAnswers .utf16 where
  uaIsregistered _ := true
  now := 0
  call := ⟨true, true, false, false, true⟩
  inventory := { inputDevices := [headset], outputDevices := [headset] }
  error := 0
  muted := false

/-- A call comes in and is answered as it is shown. -/
def answeredCall : List (CallMove .utf16) :=
  let deliver (type : BeventEv) (call : Address) : CallMove .utf16 :=
    .deliver ⟨type, some ⟨5, call⟩, fun _ => true⟩ (some 0)
  let shown : SipRuntimeObservation := ⟨.running, .ringing, .verifiedNativeApi, 1, 1, 1⟩
  [.ui .registering, .begin 5 ⟨true, true⟩ 0, deliver .registering 0, deliver .registerOk 0,
    deliver .callIncoming 9, .tick willing, .owner willing, .owner willing, .owner willing,
    .submit { action := .answer, displayed := some shown }, .tick willing, .owner willing,
    .owner willing, .owner willing, .owner willing]

example : (outputs (callStep (.ascii .utf16)) {} answeredCall).getLast? =
    some (.invoked .answer 1 1) := by decide

end AxeVoice.Native
