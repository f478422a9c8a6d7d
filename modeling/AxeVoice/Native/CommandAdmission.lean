import Mathlib.Data.Prod.Lex
import AxeVoice.Audio.InventoryAsync
import AxeVoice.Foundation.HighWater
import AxeVoice.Native.EngineAccount

/-!
# The admission of call commands

A command of the user passes a check of the audio route and then the admission,
which lets one answer, one hangup and one transfer through for a call.  It keeps
only the last call of each kind, which is enough as long as what is observed
never goes back to an earlier call.
-/

namespace AxeVoice.Native

open Audio Foundation Sip

variable {width : WCharWidth}

def validNativeDtmfKey (key : UInt8) : Bool :=
  (48 ≤ key.toNat && key.toNat ≤ 57) || key.toNat = 42 || key.toNat = 35

/-- The checks of one action, of a command that names the observed session and call. -/
def actionIsCurrent (command : NativeCallCommand) (state : SipRuntimeObservation) : Bool :=
  match command.action with
  | .dial => state.sip = .registered && state.callId = 0
  | .answer => state.sip = .ringing && state.callId ≠ 0
  | .dtmf =>
      state.sip = .inCall && state.callId ≠ 0 &&
        match command.destination with
        | [key] => validNativeDtmfKey key
        | _ => false
  | .transfer | .setMute | .setHold => state.sip = .inCall && state.callId ≠ 0
  | .hangup =>
      state.callId ≠ 0 && (state.sip = .calling || state.sip = .ringing || state.sip = .inCall)
  | .none => false

def nativeCommandIsCurrent (command : NativeCallCommand) (state : SipRuntimeObservation) : Bool :=
  if !sipProofIsCurrent state command.session || command.callId ≠ state.callId then false
  else actionIsCurrent command state

structure NativeCommandAdmission where
  answerSession : UInt64 := 0
  answerCall : UInt64 := 0
  hangupSession : UInt64 := 0
  hangupCall : UInt64 := 0
  transferSession : UInt64 := 0
  transferCall : UInt64 := 0
  deriving DecidableEq

def NativeCommandAdmission.admit (admission : NativeCommandAdmission) (command : NativeCallCommand)
    (state : SipRuntimeObservation) : Bool × NativeCommandAdmission :=
  if !nativeCommandIsCurrent command state then (false, admission)
  else
    match command.action with
    | .answer =>
        if admission.answerSession = command.session && admission.answerCall = command.callId then
          (false, admission)
        else
          (true, { admission with answerSession := command.session, answerCall := command.callId })
    | .hangup =>
        if admission.hangupSession = command.session && admission.hangupCall = command.callId then
          (false, admission)
        else
          (true, { admission with hangupSession := command.session, hangupCall := command.callId })
    | .transfer =>
        if admission.transferSession = command.session &&
            admission.transferCall = command.callId then
          (false, admission)
        else
          (true, { admission with
            transferSession := command.session, transferCall := command.callId })
    | _ => (true, admission)

structure AudioSelectionRefresh (width : WCharWidth) where
  index : Int := -1
  selectedId : WString width := []
  replacedMissingDevice : Bool := false

def AudioSelectionRefresh.available (refresh : AudioSelectionRefresh width) : Bool :=
  refresh.index ≥ 0

/-- The device of the identifier, or the default one for calls where there is no identifier. -/
def fixedNativeAudioSelection (devices : List (AudioEndpoint width)) (id : WString width) :
    AudioSelectionRefresh width :=
  match devices.findIdx? fun device =>
      if id.isEmpty then device.defaultCommunications else device.id = id with
  | some index => ⟨index, id, false⟩
  | none => ⟨-1, id, false⟩

def nativeAudioRouteStatus (route : NativeAudioRoute width) (inventory : AudioInventory width) :
    NativeAudioRouteStatus :=
  if !validNativeAudioRoute route then .invalidSelection
  else if inventory.error ≠ .none then .inventoryFailed
  else if !(fixedNativeAudioSelection inventory.inputDevices route.captureId).available then
    .missingCapture
  else if !(fixedNativeAudioSelection inventory.outputDevices route.playbackId).available then
    .missingPlayback
  else .ready

def nativeCommandNeedsAudioPreflight (command : NativeCallCommand) : Bool :=
  command.action = .dial || command.action = .answer ||
    (command.action = .setHold && !command.desired)

structure NativeAudioCommandDecision where
  allowed : Bool := false
  audio : NativeAudioRouteStatus := .ready
  deriving DecidableEq

def admitNativeAudioCommand (admission : NativeCommandAdmission) (command : NativeCallCommand)
    (state : SipRuntimeObservation) (route : NativeAudioRoute width)
    (inventory : AudioInventory width) : NativeAudioCommandDecision × NativeCommandAdmission :=
  if !nativeCommandIsCurrent command state then ({}, admission)
  else if nativeCommandNeedsAudioPreflight command &&
      nativeAudioRouteStatus route inventory ≠ .ready then
    (⟨false, nativeAudioRouteStatus route inventory⟩, admission)
  else
    let (allowed, admission) := admission.admit command state
    (⟨allowed, .ready⟩, admission)

/-- What one call of the guard is given. -/
structure AdmissionInput (width : WCharWidth) where
  command : NativeCallCommand
  state : SipRuntimeObservation
  route : NativeAudioRoute width
  inventory : AudioInventory width

def admissionStep (admission : NativeCommandAdmission) (input : AdmissionInput width) :
    NativeAudioCommandDecision × NativeCommandAdmission :=
  admitNativeAudioCommand admission input.command input.state input.route input.inventory

abbrev AdmissionStage (width : WCharWidth) :=
  Stage NativeCommandAdmission (AdmissionInput width) NativeAudioCommandDecision

/-- The actions that are let through once for a call. -/
def once (action : NativeCallAction) : Bool :=
  action = .answer || action = .hangup || action = .transfer

/-- The session and the call that a command names. -/
def NativeCallCommand.call (command : NativeCallCommand) : UInt64 × UInt64 :=
  (command.session, command.callId)

/-- The call that the admission keeps of an action. -/
def NativeCommandAdmission.kept (admission : NativeCommandAdmission) :
    NativeCallAction → UInt64 × UInt64
  | .answer => (admission.answerSession, admission.answerCall)
  | .hangup => (admission.hangupSession, admission.hangupCall)
  | .transfer => (admission.transferSession, admission.transferCall)
  | _ => (0, 0)

/-- The calls of the commands of an action that were allowed, oldest first. -/
def allowedCalls (action : NativeCallAction) (history : List (AdmissionStage width)) :
    List (UInt64 × UInt64) :=
  (history.filter fun stage => stage.output.allowed && stage.input.command.action = action).map
    fun stage => stage.input.command.call

/-- What the admission decides of a command that is current, and what it then keeps. -/
structure Admits (admission : NativeCommandAdmission) (command : NativeCallCommand)
    (answer : Bool × NativeCommandAdmission) : Prop where
  admitted : answer.1 = true ↔
    (once command.action = true → admission.kept command.action ≠ command.call)
  refused : answer.1 = false → answer.2 = admission
  kept : answer.1 = true → ∀ action, once action = true →
    answer.2.kept action = if action = command.action then command.call else admission.kept action

theorem forall_once {Holds : NativeCallAction → Prop} (answer : Holds .answer)
    (hangup : Holds .hangup) (transfer : Holds .transfer) :
    ∀ action, once action = true → Holds action := by
  intro action kind
  cases action with
  | answer => exact answer
  | hangup => exact hangup
  | transfer => exact transfer
  | none | dial | setMute | setHold | dtmf => cases kind

theorem admits_repeated {admission : NativeCommandAdmission} {command : NativeCallCommand}
    (kind : once command.action = true)
    (same : admission.kept command.action = command.call) :
    Admits admission command (false, admission) := by
  refine ⟨⟨nofun, fun fresh => absurd same (fresh kind)⟩, fun _ => rfl, nofun⟩

theorem admits_fresh {admission next : NativeCommandAdmission} {command : NativeCallCommand}
    (fresh : admission.kept command.action ≠ command.call)
    (kept : ∀ action, once action = true →
      next.kept action = if action = command.action then command.call else admission.kept action) :
    Admits admission command (true, next) :=
  ⟨⟨fun _ _ => fresh, fun _ => rfl⟩, nofun, fun _ => kept⟩

theorem admit_admits (admission : NativeCommandAdmission) {command : NativeCallCommand}
    {state : SipRuntimeObservation} (current : nativeCommandIsCurrent command state = true) :
    Admits admission command ( admission.admit command state) := by
  rw [ NativeCommandAdmission.admit, if_neg (by rw [current]; exact nofun)]
  obtain ⟨action, session, callId, destination, desired⟩ := command
  have apart {kept call : UInt64} (other : ¬ (kept = session && call = callId) = true) :
      (kept, call) ≠ (session, callId) := by
    rintro ⟨rfl, rfl⟩
    exact other (by simp)
  have alike {kept call : UInt64} (same : (kept = session && call = callId) = true) :
      (kept, call) = (session, callId) := by
    rw [Bool.and_eq_true, decide_eq_true_eq, decide_eq_true_eq] at same
    rw [same.1, same.2]
  cases action with
  | answer =>
      dsimp only
      split
      · next same => exact admits_repeated rfl (alike same)
      · next other =>
          exact admits_fresh (apart other) (forall_once rfl rfl rfl)
  | hangup =>
      dsimp only
      split
      · next same => exact admits_repeated rfl (alike same)
      · next other =>
          exact admits_fresh (apart other) (forall_once rfl rfl rfl)
  | transfer =>
      dsimp only
      split
      · next same => exact admits_repeated rfl (alike same)
      · next other =>
          exact admits_fresh (apart other) (forall_once rfl rfl rfl)
  | none | dial | setMute | setHold | dtmf =>
      exact ⟨⟨fun _ => nofun, fun _ => rfl⟩, nofun, fun _ => forall_once rfl rfl rfl⟩

/-- What the guard lets through, and what it then keeps. -/
structure Vetted (admission : NativeCommandAdmission) (input : AdmissionInput width)
    (answer : NativeAudioCommandDecision × NativeCommandAdmission) : Prop where
  allowed : answer.1.allowed = true ↔ nativeCommandIsCurrent input.command input.state = true ∧
    (nativeCommandNeedsAudioPreflight input.command = true →
      nativeAudioRouteStatus input.route input.inventory = .ready) ∧
    (once input.command.action = true →
      admission.kept input.command.action ≠ input.command.call)
  refused : answer.1.allowed = false → answer.2 = admission
  kept : answer.1.allowed = true → ∀ action, once action = true →
    answer.2.kept action =
      if action = input.command.action then input.command.call else admission.kept action
  audio : answer.1.audio ≠ .ready → answer.1.allowed = false

theorem admissionStep_vetted (admission : NativeCommandAdmission) (input : AdmissionInput width) :
    Vetted admission input (admissionStep admission input) := by
  rw [admissionStep, admitNativeAudioCommand]
  split
  · next stale =>
      refine ⟨⟨nofun, fun known => ?_⟩, fun _ => rfl, nofun, fun _ => rfl⟩
      rw [known.1] at stale
      cases stale
  next current =>
  have current : nativeCommandIsCurrent input.command input.state = true := by simpa using current
  split
  · next silent =>
      rw [Bool.and_eq_true, decide_eq_true_eq] at silent
      exact ⟨⟨nofun, fun known => absurd (known.2.1 silent.1) silent.2⟩, fun _ => rfl, nofun,
        fun _ => rfl⟩
  · next ready =>
      rw [Bool.and_eq_true, decide_eq_true_eq, not_and, not_not] at ready
      have admits := admit_admits admission current
      generalize admission.admit input.command input.state = answer at admits
      obtain ⟨allowed, next⟩ := answer
      exact ⟨⟨fun known => ⟨current, ready, admits.admitted.mp known⟩,
          fun known => admits.admitted.mpr known.2.2⟩,
        admits.refused, admits.kept, fun silent => absurd rfl silent⟩

theorem allowedCalls_concat (action : NativeCallAction) (history : List (AdmissionStage width))
    (stage : AdmissionStage width) : allowedCalls action (history ++ [stage]) =
      allowedCalls action history ++
        if stage.output.allowed && stage.input.command.action = action then
          [stage.input.command.call] else [] := by
  rw [allowedCalls, allowedCalls, List.filter_append, List.map_append, List.filter_singleton]
  cases stage.output.allowed && decide (stage.input.command.action = action) with
  | true => rfl
  | false => rfl

/-- The admission keeps the last call of every kind. -/
def KeepsLast (history : List (AdmissionStage width)) (admission : NativeCommandAdmission) : Prop :=
  ∀ action, once action = true →
    admission.kept action = (allowedCalls action history).getLast?.getD (0, 0)

theorem keepsLast_step {history : List (AdmissionStage width)}
    {admission : NativeCommandAdmission} (keeps : KeepsLast history admission)
    (input : AdmissionInput width) :
    KeepsLast (history ++ [stageOf admissionStep admission input])
      (admissionStep admission input).2 := by
  have guarded := admissionStep_vetted admission input
  intro action kind
  rw [allowedCalls_concat, stageOf]
  dsimp only
  generalize admissionStep admission input = answer at guarded
  cases allowed : answer.1.allowed with
  | false =>
      rw [guarded.refused allowed, Bool.false_and, if_neg Bool.false_ne_true, List.append_nil]
      exact keeps action kind
  | true =>
      rw [guarded.kept allowed action kind, Bool.true_and]
      split
      · next same =>
          rw [if_pos (decide_eq_true same.symm), List.getLast?_concat]
          rfl
      · next other =>
          rw [if_neg (by simpa using fun same => other same.symm), List.append_nil]
          exact keeps action kind

theorem reachable_keepsLast (inputs : List (AdmissionInput width)) :
    KeepsLast (stages admissionStep {} inputs) (finalState admissionStep {} inputs) := by
  have initial : KeepsLast ([] : List (AdmissionStage width)) {} := forall_once rfl rfl rfl
  have kept : KeepsLast ([] ++ stages admissionStep {} inputs)
      (finalState admissionStep {} inputs) :=
    history_invariant KeepsLast (fun _ => True)
      (fun _ _ input keeps _ => keepsLast_step keeps input) [] initial fun _ _ => trivial
  rwa [List.nil_append] at kept

/-- The session and the last call of an observation, in the order of their numbers. -/
def observedCall (state : SipRuntimeObservation) : ℕ ×ₗ ℕ :=
  toLex (state.session.toNat, state.lastCallId.toNat)

def callKey (call : UInt64 × UInt64) : ℕ ×ₗ ℕ := toLex (call.1.toNat, call.2.toNat)

theorem callKey_injective : Function.Injective callKey := by
  intro first second same
  have parts := congrArg ofLex same
  exact Prod.ext (UInt64.toNat_inj.mp (congrArg Prod.fst parts))
    (UInt64.toNat_inj.mp (congrArg Prod.snd parts))

/-- The observations never go back to an earlier call, and show none but the last. -/
structure Observed (inputs : List (AdmissionInput width)) : Prop where
  rising : inputs.Pairwise fun earlier later =>
    observedCall earlier.state ≤ observedCall later.state
  last : ∀ input ∈ inputs, input.state.callId ≠ 0 → input.state.callId = input.state.lastCallId

/-- What a current command names. -/
theorem current_names {command : NativeCallCommand} {state : SipRuntimeObservation}
    (current : nativeCommandIsCurrent command state = true) :
    command.session = state.session ∧ command.callId = state.callId ∧ command.session ≠ 0 ∧
      (once command.action = true → state.callId ≠ 0) := by
  rw [nativeCommandIsCurrent] at current
  split at current
  · cases current
  next named =>
  simp only [Bool.or_eq_true, Bool.not_eq_true', decide_eq_true_eq, not_or, Bool.not_eq_false,
    sipProofIsCurrent, Bool.and_eq_true, ne_eq, not_not] at named
  obtain ⟨⟨⟨-, positive⟩, session⟩, call⟩ := named
  refine ⟨session.symm, call, positive, fun kind => ?_⟩
  rw [actionIsCurrent] at current
  cases action : command.action with
  | answer | hangup | transfer =>
      rw [action] at current
      simp only [Bool.and_eq_true, decide_eq_true_eq, ne_eq] at current
      first | exact current.2 | exact current.1
  | none | dial | setMute | setHold | dtmf =>
      rw [action] at kind
      cases kind

/-- A command that was allowed named what was observed at the time. -/
theorem allowed_current {inputs : List (AdmissionInput width)} :
    ∀ stage ∈ stages admissionStep {} inputs, stage.output.allowed = true →
      nativeCommandIsCurrent stage.input.command stage.input.state = true :=
  stages_forall_of_step _ (fun admission input allowed =>
    ((admissionStep_vetted admission input).allowed.mp allowed).1) _ inputs

/-- The call of a command that is let through once is the call that was observed last. -/
theorem callKey_of_current {input : AdmissionInput width}
    (last : input.state.callId ≠ 0 → input.state.callId = input.state.lastCallId)
    (current : nativeCommandIsCurrent input.command input.state = true)
    (kind : once input.command.action = true) :
    callKey input.command.call = observedCall input.state := by
  obtain ⟨session, call, -, some⟩ := current_names current
  rw [callKey, observedCall, NativeCallCommand.call, session, call, last (some kind)]

theorem admission_inputs (inputs : List (AdmissionInput width)) :
    (stages admissionStep {} inputs).map Stage.input = inputs := stages_inputs _ inputs

section Observed

variable {inputs : List (AdmissionInput width)}

theorem mem_allowedCalls {action : NativeCallAction} {history : List (AdmissionStage width)}
    {call : UInt64 × UInt64} : call ∈ allowedCalls action history ↔ ∃ stage ∈ history,
      stage.output.allowed = true ∧ stage.input.command.action = action ∧
        stage.input.command.call = call := by
  rw [allowedCalls, List.mem_map]
  constructor
  · rintro ⟨stage, member, same⟩
    obtain ⟨inside, kind⟩ := List.mem_filter.mp member
    rw [Bool.and_eq_true, decide_eq_true_eq] at kind
    exact ⟨stage, inside, kind.1, kind.2, same⟩
  · rintro ⟨stage, inside, allowed, kind, same⟩
    refine ⟨stage, List.mem_filter.mpr ⟨inside, ?_⟩, same⟩
    rw [allowed, kind]
    simp

theorem Observed.stage_last (observed : Observed inputs) {stage : AdmissionStage width}
    (member : stage ∈ stages admissionStep {} inputs) :
    stage.input.state.callId ≠ 0 → stage.input.state.callId = stage.input.state.lastCallId := by
  apply observed.last
  rw [← admission_inputs inputs]
  exact List.mem_map_of_mem member

theorem Observed.front {before after : List (AdmissionInput width)}
    (observed : Observed (before ++ after)) : Observed before :=
  ⟨(List.pairwise_append.mp observed.rising).1,
    fun input member => observed.last input (List.mem_append_left _ member)⟩

/-- The keys of the allowed calls never fall. -/
theorem Observed.allowedCalls_rising (observed : Observed inputs) {action : NativeCallAction}
    (kind : once action = true) : (allowedCalls action (stages admissionStep {} inputs)).Pairwise
      fun earlier later => callKey earlier ≤ callKey later := by
  have rising : (stages admissionStep {} inputs).Pairwise fun earlier later =>
      observedCall earlier.input.state ≤ observedCall later.input.state := by
    have known := observed.rising
    rw [← admission_inputs inputs, List.pairwise_map] at known
    exact known
  rw [allowedCalls, List.pairwise_map]
  refine (rising.filter _).imp_of_mem fun {earlier later} first second below => ?_
  have key {stage : AdmissionStage width} (member : stage ∈ (stages admissionStep {} inputs).filter
      fun stage => stage.output.allowed && stage.input.command.action = action) :
      callKey stage.input.command.call = observedCall stage.input.state := by
    obtain ⟨inside, chosen⟩ := List.mem_filter.mp member
    rw [Bool.and_eq_true, decide_eq_true_eq] at chosen
    exact callKey_of_current (observed.stage_last inside) (allowed_current stage inside chosen.1)
      (chosen.2 ▸ kind)
  rw [key first, key second]
  exact below

/-- A current command is refused for its call only where one of its kind was allowed for it. -/
theorem Observed.kept_iff {before after : List (AdmissionInput width)} {input : AdmissionInput width}
    (observed : Observed (before ++ input :: after))
    (current : nativeCommandIsCurrent input.command input.state = true)
    (kind : once input.command.action = true) :
    (finalState admissionStep {} before).kept input.command.action = input.command.call ↔
      input.command.call ∈ allowedCalls input.command.action (stages admissionStep {} before) := by
  obtain ⟨-, -, across⟩ := List.pairwise_append.mp observed.rising
  have earlier := observed.front
  have next := callKey_of_current (observed.last input (by simp)) current kind
  have below : ∀ call ∈ allowedCalls input.command.action (stages admissionStep {} before),
      callKey call ≤ callKey input.command.call := by
    intro call member
    obtain ⟨stage, inside, allowed, same, rfl⟩ := mem_allowedCalls.mp member
    have listed : stage.input ∈ before := by
      rw [← admission_inputs before]
      exact List.mem_map_of_mem inside
    rw [next, callKey_of_current (earlier.stage_last inside) (allowed_current stage inside allowed)
      (same ▸ kind)]
    exact across stage.input listed input List.mem_cons_self
  rw [mem_iff_getLast?_of_rising callKey_injective (earlier.allowedCalls_rising kind) below,
    reachable_keepsLast before input.command.action kind]
  cases last : (allowedCalls input.command.action (stages admissionStep {} before)).getLast? with
  | some call => exact Option.some_inj.symm
  | none =>
      have named := (current_names current).2.2.1
      constructor
      · intro zero
        exact absurd (congrArg Prod.fst zero).symm named
      · intro found
        cases found

/-- What the guard does in a run. -/
structure AdmissionFacts (inputs : List (AdmissionInput width)) : Prop where
  once : ∀ action, once action = true →
    (allowedCalls action (stages admissionStep {} inputs)).Nodup
  matching : ∀ stage ∈ stages admissionStep {} inputs, stage.output.allowed = true →
    stage.input.command.session = stage.input.state.session ∧
      stage.input.command.callId = stage.input.state.callId
  free : ∀ stage ∈ stages admissionStep {} inputs, stage.output.audio ≠ .ready →
    stage.after = stage.before
  later : ∀ before input after, inputs = before ++ input :: after →
    ((admissionStep (finalState admissionStep {} before) input).1.allowed = true ↔
      nativeCommandIsCurrent input.command input.state = true ∧
        (nativeCommandNeedsAudioPreflight input.command = true →
          nativeAudioRouteStatus input.route input.inventory = .ready) ∧
        (Native.once input.command.action = true → input.command.call ∉
          allowedCalls input.command.action (stages admissionStep {} before)))

theorem Observed.decided (observed : Observed inputs) {before after : List (AdmissionInput width)}
    {input : AdmissionInput width} (split : inputs = before ++ input :: after) :
    (admissionStep (finalState admissionStep {} before) input).1.allowed = true ↔
      nativeCommandIsCurrent input.command input.state = true ∧
        (nativeCommandNeedsAudioPreflight input.command = true →
          nativeAudioRouteStatus input.route input.inventory = .ready) ∧
        (Native.once input.command.action = true → input.command.call ∉
          allowedCalls input.command.action (stages admissionStep {} before)) := by
  rw [split] at observed
  rw [(admissionStep_vetted _ input).allowed]
  refine and_congr_right fun current => and_congr_right fun _ => ?_
  refine forall_congr' fun kind => ?_
  rw [ne_eq, observed.kept_iff current kind]

theorem Observed.allowedCalls_nodup (observed : Observed inputs) {action : NativeCallAction}
    (kind : Native.once action = true) :
    (allowedCalls action (stages admissionStep {} inputs)).Nodup := by
  induction inputs using List.reverseRecOn with
  | nil => exact List.nodup_nil
  | append_singleton before input ih =>
      rw [stages_append, stages_cons, stages_nil, allowedCalls_concat]
      have whole : before ++ [input] = before ++ input :: [] := rfl
      have fresh := (observed.decided whole).mp
      split
      · next chosen =>
          rw [Bool.and_eq_true, decide_eq_true_eq] at chosen
          obtain ⟨allowed, rfl⟩ := chosen
          obtain ⟨-, -, unseen⟩ := fresh allowed
          refine List.nodup_append.mpr ⟨ih observed.front, List.nodup_singleton _, ?_⟩
          rintro call found other last rfl
          exact unseen kind (List.mem_singleton.mp last ▸ found)
      · rw [List.append_nil]
        exact ih observed.front

theorem admitted_once_per_call (observed : Observed inputs) : AdmissionFacts inputs := by
  constructor
  · exact fun action kind => observed.allowedCalls_nodup kind
  · intro stage member allowed
    obtain ⟨session, call, -⟩ := current_names (allowed_current stage member allowed)
    exact ⟨session, call⟩
  · refine stages_forall_of_step _ (fun admission input silent => ?_) _ inputs
    have guarded := admissionStep_vetted admission input
    exact guarded.refused (guarded.audio silent)
  · exact fun before input after split => observed.decided split

end Observed

/-- A command that was refused for its audio is let through once the route is available. -/
def RefusalsForgotten (width : WCharWidth) : Prop :=
  ∀ (before : List (AdmissionInput width)) (input : AdmissionInput width),
    Observed (before ++ [input]) →
    (admissionStep (finalState admissionStep {} before) input).1.audio ≠ .ready →
    ∀ (route : NativeAudioRoute width) (inventory : AudioInventory width),
      nativeAudioRouteStatus route inventory = .ready → (admissionStep (finalState admissionStep {} (before ++ [input]))
        { input with route := route, inventory := inventory }).1.allowed = true

/-- A call that rings, answered with these devices present. -/
def answering (devices : List (AudioEndpoint .utf16)) : AdmissionInput .utf16 where
  command := { action := .answer, session := 1, callId := 1 }
  state := ⟨.running, .ringing, .verifiedNativeApi, 1, 1, 1⟩
  route := {}
  inventory := { inputDevices := devices, outputDevices := devices }

def headset : AudioEndpoint .utf16 := ⟨wideText .utf16 "1", wideText .utf16 "1", true, false⟩

theorem answering_observed {inputs : List (AdmissionInput .utf16)}
    (answers : ∀ input ∈ inputs, ∃ devices, input = answering devices) : Observed inputs := by
  constructor
  · refine List.pairwise_of_forall_mem_list fun first firstIn second secondIn => ?_
    obtain ⟨-, rfl⟩ := answers first firstIn
    obtain ⟨-, rfl⟩ := answers second secondIn
    exact le_rfl
  · intro input member _
    obtain ⟨-, rfl⟩ := answers input member
    rfl

theorem admitted_once_answering : Observed [answering [], answering [headset]] ∧
    AdmissionFacts [answering [], answering [headset]] := by
  have observed : Observed [answering [], answering [headset]] :=
    answering_observed (by simp)
  exact ⟨observed, admitted_once_per_call observed⟩

theorem answered_call_refused : ¬ RefusalsForgotten .utf16 := by
  intro forgotten
  have observed : Observed ([answering [headset]] ++ [answering []]) :=
    answering_observed (by simp)
  have again := forgotten [answering [headset]] (answering []) observed (by decide) {}
    (answering [headset]).inventory (by decide)
  revert again
  decide

end AxeVoice.Native
