import AxeVoice.Desktop.CallControls

/-!
# Enabled controls are accepted

The window enables its controls by the observation that it shows; the engine
admits a command by its own checks.  As long as the engine has published nothing
new, and has no command left, the two agree: a press is accepted exactly if its
control is enabled.
-/

namespace AxeVoice.Desktop

open Command Foundation Native Sip

variable {width : WCharWidth} {ctype : WideCtype width}

/-- The window offers to answer, and to hang up, by the check of the engine. -/
theorem call_offered (hangup : Bool) (observed : SipRuntimeObservation) :
    (if hangup then (essentialCallActions observed observed.session false).hangup
      else (essentialCallActions observed observed.session false).answer) =
        nativeDisplayedCallCommandCurrent (if hangup then .hangup else .answer) observed
          observed := by
  cases proof : sipProofIsCurrent observed observed.session with
  | false =>
      cases hangup <;>
        simp [essentialCallActions, nativeDisplayedCallCommandCurrent, nativeCommandIsCurrent, proof]
  | true =>
      by_cases call : observed.callId = 0
      all_goals
        cases hangup <;> cases sip : observed.sip <;>
          simp [essentialCallActions, nativeDisplayedCallCommandCurrent, nativeCommandIsCurrent,
            actionIsCurrent, proof, call, sip]

theorem preferences_offered (observed : SipRuntimeObservation) :
    preferencesIncomingControlsAvailable observed observed =
      nativeDisplayedCallCommandCurrent .answer observed observed := by
  cases proof : sipProofIsCurrent observed observed.session with
  | false =>
      simp [preferencesIncomingControlsAvailable, nativeDisplayedCallCommandCurrent,
        nativeCommandIsCurrent, proof]
  | true =>
      by_cases call : observed.callId = 0
      all_goals
        cases sip : observed.sip <;>
          simp [preferencesIncomingControlsAvailable, nativeDisplayedCallCommandCurrent,
            nativeCommandIsCurrent, actionIsCurrent, proof, call, sip]

/-- The engine has published nothing since the window was refreshed. -/
structure UpToDate (panel : CallPanel width) : Prop where
  view : panel.observation = panel.displayed
  media : panel.media =
    if nativeMediaControlsCurrent panel.calls.engine.media panel.displayed then
      panel.calls.engine.media
    else {}

theorem UpToDate.published {panel : CallPanel width} (current : UpToDate panel)
    (controls : nativeMediaControlsCurrent panel.media panel.displayed = true) :
    panel.calls.engine.media = panel.media := by
  have media := current.media
  split at media
  · exact media.symm
  · rw [media] at controls
    cases controls

/-- The engine accepts the request. -/
def accepts (panel : CallPanel width) (request : CallRequest) : Bool :=
  (panel.calls.engine.submit request.command (request.current panel.calls.engine)).1

theorem accepts_iff {panel : CallPanel width} (free : panel.calls.engine.command.action = .none)
    (request : CallRequest) :
    accepts panel request = true ↔ panel.observation.process = .running ∧
      request.current panel.calls.engine = true := by
  unfold accepts BaresipSipEngine.submit
  split
  · next refused =>
      constructor
      · intro impossible
        cases impossible
      · rintro ⟨running, current⟩
        have running : panel.calls.engine.view.process = .running := running
        simp [running, free, current] at refused
  · next passed =>
      simp only [Bool.or_eq_true, Bool.not_eq_true', not_or, Bool.not_eq_false,
        decide_eq_true_eq, not_not] at passed
      exact ⟨fun _ => ⟨passed.1.1, passed.2⟩, fun _ => rfl⟩

theorem running_of_media {media : NativeCallMediaState} {call : SipRuntimeObservation}
    (current : nativeMediaControlsCurrent media call = true) : call.process = .running := by
  rw [nativeMediaControlsCurrent, Bool.and_eq_true] at current
  exact ((sipProofIsCurrent_iff call media.session).mp current.2).1

theorem running_of_displayed {action : NativeCallAction} {displayed current : SipRuntimeObservation}
    (known : nativeDisplayedCallCommandCurrent action displayed current = true) :
    current.process = .running := by
  unfold nativeDisplayedCallCommandCurrent at known
  split at known
  · cases known
  · dsimp only at known
    rw [Bool.and_eq_true] at known
    obtain ⟨-, named⟩ := known
    unfold nativeCommandIsCurrent at named
    split at named
    · cases named
    · next proof =>
        simp only [Bool.or_eq_true, Bool.not_eq_true', not_or, Bool.not_eq_false] at proof
        exact ((sipProofIsCurrent_iff current _).mp proof.1).1

theorem accepts_call {panel : CallPanel width} (current : UpToDate panel)
    (free : panel.calls.engine.command.action = .none) (hangup : Bool) :
    accepts panel (panel.callRequest hangup) =
      nativeDisplayedCallCommandCurrent (panel.callRequest hangup).action panel.displayed
        panel.displayed := by
  have view : panel.calls.engine.view = panel.displayed := current.view
  have displays : (panel.callRequest hangup).displays panel.calls.engine =
      nativeDisplayedCallCommandCurrent (panel.callRequest hangup).action panel.displayed
        panel.displayed := by
    rw [← view]
    simp only [CallRequest.displays, CallPanel.callRequest, view]
  rw [Bool.eq_iff_iff, accepts_iff free, current.view]
  constructor
  · rintro ⟨-, allowed⟩
    rw [← displays]
    cases hangup
    · exact ((Bool.and_eq_true _ _).mp allowed).2
    · exact ((Bool.and_eq_true _ _).mp allowed).2
  · intro known
    refine ⟨running_of_displayed known, ?_⟩
    obtain ⟨-, -, acts⟩ := displayedCommand_current known
    rw [← displays] at known
    cases hangup with
    | false =>
        refine (Bool.and_eq_true _ _).mpr ⟨?_, known⟩
        rw [view]
        exact ((Bool.and_eq_true _ _).mp acts).1
    | true =>
        refine (Bool.and_eq_true _ _).mpr ⟨?_, known⟩
        rw [view]
        exact ((Bool.and_eq_true _ _).mp acts).1

theorem accepts_media {panel : CallPanel width} (current : UpToDate panel)
    (free : panel.calls.engine.command.action = .none) (hold : Bool) :
    accepts panel (panel.mediaRequest hold) =
      nativeMediaControlsCurrent panel.media panel.displayed := by
  have view : panel.calls.engine.view = panel.displayed := current.view
  have controlled : (panel.mediaRequest hold).current panel.calls.engine =
      (nativeMediaControlsCurrent panel.media panel.displayed &&
        nativeMediaControlsCurrent panel.calls.engine.media panel.displayed) := by
    rw [← view]
    cases hold <;> rfl
  rw [Bool.eq_iff_iff, accepts_iff free, current.view, controlled, Bool.and_eq_true]
  constructor
  · rintro ⟨-, known, -⟩
    exact known
  · intro known
    exact ⟨running_of_media known, known, by rwa [current.published known]⟩

theorem accepts_key {panel : CallPanel width} (current : UpToDate panel)
    (free : panel.calls.engine.command.action = .none) (index : Fin 12) :
    accepts panel (panel.keyRequest (dialpadKey index)) =
      nativeDtmfControlsCurrent panel.media panel.displayed := by
  have view : panel.calls.engine.view = panel.displayed := current.view
  have valid : validNativeDtmfKey (dialpadKey index) = true := by decide +revert
  have controlled : (panel.keyRequest (dialpadKey index)).current panel.calls.engine =
      (nativeDtmfControlsCurrent panel.media panel.displayed &&
        nativeDtmfControlsCurrent panel.calls.engine.media panel.displayed &&
          validNativeDtmfKey (dialpadKey index)) := by
    rw [← view]
    rfl
  rw [Bool.eq_iff_iff, accepts_iff free, current.view, controlled, valid, Bool.and_true,
    Bool.and_eq_true]
  constructor
  · rintro ⟨-, known, -⟩
    exact known
  · intro known
    have media := mediaControls_of_dtmf known
    exact ⟨running_of_media media, known, by rwa [current.published media]⟩

/-- The control of a press is enabled; the keys of the dial pad are, while the mode is armed. -/
def enables (panel : CallPanel width) : CallPanelMessage width → Bool
  | .press .answer | .preferences _ => panel.controls.answer
  | .press .hangup => panel.controls.hangup
  | .press .mute | .press .hold => panel.controls.media
  | .key _ => panel.dtmf.armed
  | _ => false

/-- The interface goes on, with what its clock reads at each step. -/
def goesOn (clock : List UInt64) : List (CallPanelMove width) := clock.map .gui

/-- A request is accepted on the way. -/
def Submits (ctype : WideCtype width) (panel : CallPanel width) (moves : List (CallPanelMove width)) :
    Prop :=
  .submitted true ∈ outputs (callPanelStep ctype) panel moves

theorem submits_cons {panel : CallPanel width} {move : CallPanelMove width}
    {rest : List (CallPanelMove width)} :
    Submits ctype panel (move :: rest) ↔ (callPanelStep ctype panel move).1 = .submitted true ∨
      Submits ctype (callPanelStep ctype panel move).2 rest := by
  rw [Submits, outputs, stages_cons, List.map_cons, List.mem_cons, eq_comm]
  rfl

theorem not_submits_idle {panel : CallPanel width} (point : panel.point = .idle)
    (clock : List UInt64) : ¬ Submits ctype panel (goesOn clock) := by
  induction clock with
  | nil => exact List.not_mem_nil
  | cons now later ih =>
      have stepped : callPanelStep ctype panel (.gui now) = (.nothing, panel) := by
        simp only [callPanelStep, CallPanel.guiStep, point]
      rw [goesOn, List.map_cons, submits_cons, stepped]
      rintro (impossible | submits)
      · cases impossible
      · exact ih submits

/-- What a handler does that compares once before it submits. -/
theorem submits_checked {panel : CallPanel width} {request : CallRequest} {check : Bool}
    {now : UInt64} (step : panel.guiStep ctype now =
      if check then (.nothing, { panel with point := .submitting request }) else panel.rest)
    (next : UInt64) (clock : List UInt64) :
    Submits ctype panel (goesOn (now :: next :: clock)) ↔
      check = true ∧ accepts panel request = true := by
  have first : callPanelStep ctype panel (.gui now) = _ := step
  rw [goesOn, List.map_cons, List.map_cons, submits_cons, first]
  cases check with
  | false =>
      constructor
      · rintro (impossible | submits)
        · cases impossible
        · exact absurd submits (not_submits_idle rfl (next :: clock))
      · rintro ⟨impossible, -⟩
        cases impossible
  | true =>
      have second : callPanelStep ctype { panel with point := .submitting request } (.gui next) =
          (.submitted (accepts panel request),
            { panel with
              calls := (callStep ctype panel.calls (.submit request)).2
              point := .idle }) := rfl
      rw [if_pos rfl, submits_cons, second]
      constructor
      · rintro (impossible | accepted | submits)
        · cases impossible
        · exact ⟨rfl, by simpa using accepted⟩
        · exact absurd submits (not_submits_idle rfl clock)
      · rintro ⟨-, accepted⟩
        exact .inr (.inl (by rw [accepted]))

section Presses

variable {panel : CallPanel width}

theorem callPanelStep_message (point : panel.point = .idle) (message : CallPanelMessage width) :
    callPanelStep ctype panel (.message message) = panel.handle ctype message := by
  simp only [callPanelStep, point]

/-- The buttons that answer and hang up are enabled where the engine accepts. -/
theorem call_enabled (consistent : Consistent panel) (point : panel.point = .idle)
    (current : UpToDate panel) (free : panel.calls.engine.command.action = .none) (hangup : Bool) :
    accepts panel (panel.callRequest hangup) =
      if hangup then panel.controls.hangup else panel.controls.answer := by
  obtain ⟨answer, hangsUp⟩ := consistent.call (by simp [point]) (by simp [point])
  rw [accepts_call current free]
  cases hangup with
  | false => exact (call_offered false _).symm.trans answer.symm
  | true => exact (call_offered true _).symm.trans hangsUp.symm

theorem submits_call (current : UpToDate panel)
    (free : panel.calls.engine.command.action = .none) (hangup : Bool) (now next : UInt64)
    (clock : List UInt64) :
    Submits ctype { panel with point := .answering hangup } (goesOn (now :: next :: clock)) ↔
      accepts panel (panel.callRequest hangup) = true := by
  have checked := @submits_checked _ ctype { panel with point := .answering hangup }
    (panel.callRequest hangup)
    (nativeDisplayedCallCommandCurrent (panel.callRequest hangup).action panel.displayed
      panel.observation) now rfl next clock
  rw [checked, current.view, ← accepts_call current free]
  exact and_self_iff

theorem submits_media (current : UpToDate panel)
    (free : panel.calls.engine.command.action = .none) (hold : Bool) (now next : UInt64)
    (clock : List UInt64) :
    Submits ctype { panel with point := .controlling hold } (goesOn (now :: next :: clock)) ↔
      nativeMediaControlsCurrent panel.media panel.displayed = true := by
  have checked := @submits_checked _ ctype { panel with point := .controlling hold }
    (panel.mediaRequest hold) (nativeMediaControlsCurrent panel.media panel.observation) now rfl
    next clock
  have accepted : accepts { panel with point := .controlling hold } (panel.mediaRequest hold) =
      accepts panel (panel.mediaRequest hold) := rfl
  rw [checked, current.view, accepted, accepts_media current free]
  exact and_self_iff

/-- Whoever may answer the call may reject it. -/
theorem hangup_of_answer {observed : SipRuntimeObservation}
    (answer : nativeDisplayedCallCommandCurrent .answer observed observed = true) :
    nativeDisplayedCallCommandCurrent .hangup observed observed = true := by
  have hangsUp := call_offered true observed
  have answers := call_offered false observed
  simp only [if_true, Bool.false_eq_true, if_false] at hangsUp answers
  rw [← hangsUp]
  rw [← answers] at answer
  unfold essentialCallActions at answer ⊢
  split at answer
  · cases answer
  · split at answer
    · cases answer
    · split at answer
      · cases answer
      · next proof registered call =>
          rw [if_neg proof, if_neg registered, if_neg call]
          revert answer
          cases observed.sip <;> decide

theorem submits_preferences (consistent : Consistent panel) (point : panel.point = .idle)
    (current : UpToDate panel) (free : panel.calls.engine.command.action = .none) (reject : Bool)
    (first second third : UInt64) :
    Submits ctype { panel with point := .preferring reject } (goesOn [first, second, third]) ↔
      panel.controls.answer = true := by
  have offered : panel.controls.answer =
      nativeDisplayedCallCommandCurrent .answer panel.displayed panel.displayed :=
    (consistent.call (by simp [point]) (by simp [point])).1.trans (call_offered false _)
  have stepped : callPanelStep ctype { panel with point := .preferring reject } (.gui first) =
      if preferencesIncomingControlsAvailable panel.observation panel.displayed then
        (.nothing, { panel with point := .answering reject })
      else panel.rest := rfl
  rw [goesOn, List.map_cons, submits_cons, stepped, current.view, preferences_offered, ← offered]
  cases available : panel.controls.answer with
  | false =>
      rw [if_neg (by decide)]
      refine iff_of_false ?_ (by decide)
      rintro (impossible | submits)
      · cases impossible
      · exact not_submits_idle rfl [second, third] submits
  | true =>
      rw [if_pos rfl]
      refine (or_iff_right nofun).trans ((submits_call current free reject ..).trans ?_)
      rw [accepts_call current free]
      refine iff_of_true ?_ rfl
      rw [available] at offered
      cases reject with
      | false => exact offered.symm
      | true => exact hangup_of_answer offered.symm

theorem submits_key (consistent : Consistent panel) (point : panel.point = .idle)
    (current : UpToDate panel) (free : panel.calls.engine.command.action = .none) (index : Fin 12)
    (armed : panel.dtmf.armed = true) (first second : UInt64) (clock : List UInt64) :
    Submits ctype { panel with point := .keying (dialpadKey index) }
      (goesOn (first :: second :: clock)) := by
  have active := consistent.armed (by rw [point]; rfl) armed
  have digits := active
  rw [NativeDtmfMode.active, Bool.and_eq_true] at digits
  have valid : validNativeDtmfKey (dialpadKey index) = true := by decide +revert
  refine (@submits_checked _ ctype { panel with point := .keying (dialpadKey index) }
    (panel.keyRequest (dialpadKey index))
    (panel.dtmf.active panel.media panel.observation && validNativeDtmfKey (dialpadKey index))
    first rfl second clock).mpr ⟨?_, ?_⟩
  · rw [current.view, active, valid]
    rfl
  · exact (accepts_key current free index).trans digits.2

/-- A press is accepted exactly if its control is enabled. -/
theorem submits_press (consistent : Consistent panel) (point : panel.point = .idle)
    (current : UpToDate panel) (free : panel.calls.engine.command.action = .none)
    {message : CallPanelMessage width} (asks : (panel.asksFor ctype message).isSome = true)
    (direct : ∀ yes, message ≠ .confirm yes) (first second third : UInt64) :
    Submits ctype panel (.message message :: goesOn [first, second, third]) ↔
      enables panel message = true := by
  have settled : panel.point.settled = true := by
    rw [point]
    rfl
  obtain ⟨media, -⟩ := consistent.controls settled
  rw [submits_cons, callPanelStep_message point]
  cases message with
  | press button =>
      cases button with
      | answer =>
          refine (or_iff_right nofun).trans ((submits_call current free false ..).trans ?_)
          rw [call_enabled consistent point current free]
          rfl
      | hangup =>
          refine (or_iff_right nofun).trans ((submits_call current free true ..).trans ?_)
          rw [call_enabled consistent point current free]
          rfl
      | mute =>
          refine (or_iff_right nofun).trans ((submits_media current free false ..).trans ?_)
          rw [← media]
          rfl
      | hold =>
          refine (or_iff_right nofun).trans ((submits_media current free true ..).trans ?_)
          rw [← media]
          rfl
      | transfer | dtmf => cases asks
  | preferences reject =>
      refine (or_iff_right nofun).trans ?_
      exact submits_preferences consistent point current free reject first second third
  | key index =>
      cases armed : panel.dtmf.armed with
      | false =>
          simp only [CallPanel.asksFor, armed] at asks
          cases asks
      | true =>
          have pressed : (panel.handle ctype (.key index)).2 =
              { panel with point := .keying (dialpadKey index) } := if_pos armed
          rw [pressed]
          refine iff_of_true (.inr ?_) armed
          exact submits_key consistent point current free index armed first second [third]
  | confirm yes => exact absurd rfl (direct yes)
  | refresh | backspace | clear | edit | call => cases asks

/-- The button for transfers opens its message box exactly if it would be enabled. -/
theorem reviews_transfer (consistent : Consistent panel) (point : panel.point = .idle)
    (current : UpToDate panel) (now : UInt64) :
    (finalState (callPanelStep ctype) panel [.message (.press .transfer), .gui now]).reviews =
      (if panel.controls.media && panel.media.transfer = .none &&
          (validateAddress ctype panel.number.windowText).valid then
        [⟨panel.number.windowText, panel.media⟩]
      else []) ++ panel.reviews := by
  obtain ⟨media, -⟩ := consistent.controls (by rw [point]; rfl)
  have pressed : (callPanelStep ctype panel (.message (.press .transfer))).2 =
      { panel with point := .transferring } := by
    rw [callPanelStep_message point]
    rfl
  have opened : (callPanelStep ctype { panel with point := .transferring } (.gui now)).2.reviews =
      if !nativeMediaControlsCurrent panel.media panel.observation ||
          panel.media.transfer ≠ .none || !(validateAddress ctype panel.number.windowText).valid then
        panel.reviews
      else ⟨panel.number.windowText, panel.media⟩ :: panel.reviews :=
    apply_ite (fun result : CallObserved × CallPanel width => result.2.reviews) _ _ _
  rw [finalState_cons, pressed, finalState_cons, finalState_nil, opened, media, ← current.view]
  cases nativeMediaControlsCurrent panel.media panel.observation with
  | false => rfl
  | true =>
      by_cases transfer : panel.media.transfer = .none
      all_goals
        cases (validateAddress ctype panel.number.windowText).valid <;> simp [transfer]

/-- The button of the DTMF mode arms it exactly if it is enabled, and switches it off. -/
theorem armed_toggle (consistent : Consistent panel) (point : panel.point = .idle)
    (current : UpToDate panel) (now : UInt64) :
    (finalState (callPanelStep ctype) panel [.message (.press .dtmf), .gui now]).dtmf.armed =
      (panel.controls.dtmf && !panel.dtmf.armed) := by
  have settled : panel.point.settled = true := by
    rw [point]
    rfl
  obtain ⟨-, dtmf⟩ := consistent.controls settled
  have pressed : (callPanelStep ctype panel (.message (.press .dtmf))).2 =
      { panel with point := .toggling } := by
    rw [callPanelStep_message point]
    rfl
  have toggled : (callPanelStep ctype { panel with point := .toggling } (.gui now)).2.dtmf =
      (panel.dtmf.toggle panel.media panel.observation).2 := rfl
  rw [finalState_cons, pressed, finalState_cons, finalState_nil, toggled, dtmf, current.view]
  cases armed : panel.dtmf.armed with
  | true =>
      rw [NativeDtmfMode.toggle, if_pos (consistent.armed settled armed), Bool.not_true,
        Bool.and_false]
      rfl
  | false =>
      have inactive : ¬ panel.dtmf.active panel.media panel.displayed = true := by
        simp [NativeDtmfMode.active, armed]
      rw [NativeDtmfMode.toggle, if_neg inactive]
      cases digits : nativeDtmfControlsCurrent panel.media panel.displayed with
      | false => rfl
      | true =>
          have known := mediaControls_of_dtmf digits
          simp only [nativeMediaControlsCurrent, Bool.and_eq_true, decide_eq_true_eq] at known
          obtain ⟨⟨⟨⟨-, call⟩, -⟩, -⟩, proof⟩ := known
          obtain ⟨-, -, session, -⟩ := (sipProofIsCurrent_iff _ _).mp proof
          simp [NativeDtmfMode.armed, session, call]

end Presses

/-- How the controls of a window answer, while the engine publishes nothing new. -/
structure Responds (ctype : WideCtype width) (panel : CallPanel width) : Prop where
  accepted : ∀ message, (panel.asksFor ctype message).isSome = true →
    (∀ yes, message ≠ .confirm yes) → ∀ first second third,
      Submits ctype panel (.message message :: goesOn [first, second, third]) ↔
        enables panel message = true
  transfer : ∀ now,
    (finalState (callPanelStep ctype) panel [.message (.press .transfer), .gui now]).reviews =
      (if panel.controls.media && panel.media.transfer = .none &&
          (validateAddress ctype panel.number.windowText).valid then
        [⟨panel.number.windowText, panel.media⟩]
      else []) ++ panel.reviews
  dtmf : ∀ now,
    (finalState (callPanelStep ctype) panel [.message (.press .dtmf), .gui now]).dtmf.armed =
      (panel.controls.dtmf && !panel.dtmf.armed)

/-- Whatever has happened, the controls that are enabled do what they are for, and no other ones. -/
theorem enabled_controls_respond {ctype : WideCtype width} {moves : List (CallPanelMove width)}
    (point : (finalState (callPanelStep ctype) {} moves).point = .idle)
    (current : UpToDate (finalState (callPanelStep ctype) {} moves))
    (free : (finalState (callPanelStep ctype) {} moves).calls.engine.command.action = .none) :
    Responds ctype (finalState (callPanelStep ctype) {} moves) := by
  have consistent := (known_run ctype moves).1
  exact ⟨fun message asks direct => submits_press consistent point current free asks direct,
    reviews_transfer consistent point current, armed_toggle consistent point current⟩

/-- A call comes in, and the window shows it. -/
def incomingShown : List (CallPanelMove .utf16) :=
  let deliver (type : BeventEv) (call : Address) : CallPanelMove .utf16 :=
    .owner (.deliver ⟨type, some ⟨5, call⟩, fun _ => true⟩ (some 0))
  [.message (.call (.ui .registering)), .owner (.begin 5 ⟨true, true⟩ 0), deliver .registering 0,
    deliver .registerOk 0, deliver .callIncoming 9, .owner (.tick willing),
    .owner (.owner willing), .owner (.owner willing), .owner (.owner willing), .message .refresh,
    .gui 0, .gui 0, .gui 0]

theorem incomingShown_responds :
    Responds (.ascii .utf16) (finalState (callPanelStep (.ascii .utf16)) {} incomingShown) ∧
      (finalState (callPanelStep (.ascii .utf16)) {} incomingShown).controls.answer = true :=
  ⟨enabled_controls_respond (by decide) ⟨by decide, by decide⟩ (by decide), by decide⟩

end AxeVoice.Desktop
