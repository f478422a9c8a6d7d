import AxeVoice.Desktop.Dialing

/-!
# The controls of a call

The window shows the call that the engine has published, and its controls act on
the call that is shown.  The owner of the engine goes on meanwhile: a handler
compares what is shown with what is published now, and the engine compares again.
The dial pad edits the number, or sends its keys to the call while the DTMF mode
is armed.  A step is what one thread does up to its next access to what another
one shares.
-/

namespace AxeVoice.Desktop

open Command Foundation Native Sip

variable {width : WCharWidth}

inductive EssentialConnectionSignal where
  | offline
  | pending
  | online
  deriving DecidableEq, Repr

def essentialConnectionSignal (observed : SipRuntimeObservation) (activeSession : UInt64) :
    EssentialConnectionSignal :=
  if observed.process = .running && observed.sip = .registering then .pending
  else if !sipProofIsCurrent observed activeSession then .offline
  else
    match observed.sip with
    | .registered | .ringing | .calling | .inCall => .online
    | _ => .offline

inductive EssentialCallView where
  | idle
  | incoming
  | outgoing
  | connected
  deriving DecidableEq, Repr

structure EssentialCallActions where
  view : EssentialCallView := .idle
  dial : Bool := false
  answer : Bool := false
  hangup : Bool := false
  secondary : Bool := false
  deriving DecidableEq, Repr

def essentialCallActions (observed : SipRuntimeObservation) (activeSession : UInt64)
    (dialAuthorized : Bool) : EssentialCallActions :=
  if !sipProofIsCurrent observed activeSession then {}
  else if observed.sip = .registered then ⟨.idle, observed.callId = 0 && dialAuthorized, false, false, false⟩
  else if observed.callId = 0 then {}
  else
    match observed.sip with
    | .ringing => ⟨.incoming, false, true, true, false⟩
    | .calling => ⟨.outgoing, false, false, true, false⟩
    | .inCall => ⟨.connected, false, false, true, true⟩
    | _ => {}

def preferencesIncomingControlsAvailable (current displayed : SipRuntimeObservation) : Bool :=
  current.callId ≠ 0 && current.sip = .ringing && displayed.sip = .ringing &&
    sipProofIsCurrent current current.session && sipProofIsCurrent displayed current.session &&
    displayed.session = current.session && displayed.callId = current.callId

structure CallDurationSnapshot where
  active : Bool := false
  elapsedMs : UInt64 := 0
  deriving DecidableEq, Repr

structure NativeCallDuration where
  active : Bool := false
  session : UInt64 := 0
  callId : UInt64 := 0
  startMs : UInt64 := 0
  lastMs : UInt64 := 0
  deriving DecidableEq, Repr

namespace NativeCallDuration

/-- A verified call in conversation. -/
def measures (observation : SipRuntimeObservation) : Bool :=
  observation.process = .running && observation.evidence = .verifiedNativeApi &&
    observation.session ≠ 0 && observation.callId ≠ 0 && observation.sip = .inCall

def observe (duration : NativeCallDuration) (observation : SipRuntimeObservation) (now : UInt64) :
    CallDurationSnapshot × NativeCallDuration :=
  if !measures observation then ({}, {})
  else
    let next : NativeCallDuration :=
      if !duration.active || duration.session ≠ observation.session ||
          duration.callId ≠ observation.callId then
        ⟨true, observation.session, observation.callId, now, now⟩
      else if now > duration.lastMs then { duration with lastMs := now }
      else duration
    (⟨true, next.lastMs - next.startMs⟩, next)

end NativeCallDuration

def formatCallDuration (width : WCharWidth) (elapsedMs : UInt64) : WString width :=
  let totalSeconds := elapsedMs.toNat / 1000
  let hours := toString (totalSeconds / 3600)
  let minutes := totalSeconds / 60 % 60
  let seconds := totalSeconds % 60
  wideText width (if hours.length < 2 then "0" else "") ++ wideText width hours ++
    wideText width ":" ++ wideText width (if minutes < 10 then "0" else "") ++
    wideText width (toString minutes) ++
    wideText width ":" ++ wideText width (if seconds < 10 then "0" else "") ++
    wideText width (toString seconds)

/-- The text of the label. -/
def durationText (width : WCharWidth) (snapshot : CallDurationSnapshot) : WString width :=
  if snapshot.active then wideText width "DURACAO " ++ formatCallDuration width snapshot.elapsedMs
  else wideText width "DURACAO --:--:--"

def dialpadKeys : List UInt8 := [49, 50, 51, 52, 53, 54, 55, 56, 57, 42, 48, 35]

/-- The key of a button. -/
def dialpadKey (index : Fin 12) : UInt8 := dialpadKeys.get index

def wideKey (width : WCharWidth) (key : UInt8) : WChar width := BitVec.ofNat width.bits key.toNat

structure DialEditPlan (width : WCharWidth) where
  accepted : Bool
  start : ℕ
  stop : ℕ
  replacement : WString width

def planDialEdit (value : WString width) (selectionStart selectionEnd : ℕ) (action : WChar width)
    (limit : ℕ := 128) : DialEditPlan width :=
  let boundedStart := min selectionStart value.length
  let boundedEnd := min selectionEnd value.length
  let start := min boundedStart boundedEnd
  let stop := max boundedStart boundedEnd
  if action = 0 then ⟨true, 0, value.length, []⟩
  else if action = 8 then
    let start := if start = stop && start > 0 then start - 1 else start
    ⟨start ≠ stop, start, stop, []⟩
  else if !(dialpadKeys.any fun digit => wideKey width digit = action) ||
      value.length - (stop - start) ≥ limit then ⟨false, start, stop, []⟩
  else ⟨true, start, stop, [action]⟩

/-- The field for the number, with its selection. -/
structure NumberField (width : WCharWidth) where
  text : WString width := []
  selectionStart : ℕ := 0
  selectionEnd : ℕ := 0

namespace NumberField

/-- `GetWindowTextW`, into a buffer of 129 units. -/
def windowText (field : NumberField width) : WString width := field.text.take 128

/-- `edit_number` -/
def edit (field : NumberField width) (action : WChar width) : NumberField width :=
  let plan := planDialEdit field.windowText field.selectionStart field.selectionEnd action
  if !plan.accepted then field
  else
    { text := field.text.take plan.start ++ plan.replacement ++ field.text.drop plan.stop
      selectionStart := plan.start + plan.replacement.length
      selectionEnd := plan.start + plan.replacement.length }

end NumberField

structure NativeDtmfMode where
  session : UInt64 := 0
  call : UInt64 := 0
  deriving DecidableEq, Repr

namespace NativeDtmfMode

def armed (mode : NativeDtmfMode) : Bool := mode.session ≠ 0 && mode.call ≠ 0

def active (mode : NativeDtmfMode) (media : NativeCallMediaState) (call : SipRuntimeObservation) :
    Bool :=
  mode.armed && mode.session = media.session && mode.call = media.callId &&
    nativeDtmfControlsCurrent media call

def synchronize (mode : NativeDtmfMode) (media : NativeCallMediaState)
    (call : SipRuntimeObservation) : NativeDtmfMode :=
  if mode.active media call then mode else {}

def toggle (mode : NativeDtmfMode) (media : NativeCallMediaState) (call : SipRuntimeObservation) :
    Bool × NativeDtmfMode :=
  if mode.active media call then (true, {})
  else if !nativeDtmfControlsCurrent media call then (false, {})
  else (true, ⟨media.session, media.callId⟩)

end NativeDtmfMode

/-- The buttons that act on the call. -/
inductive CallButton where
  | answer
  | hangup
  | mute
  | hold
  | transfer
  | dtmf
  deriving DecidableEq, Repr

/-- The buttons that are enabled. -/
structure CallControls where
  dial : Bool := false
  answer : Bool := false
  hangup : Bool := false
  dtmf : Bool := false
  media : Bool := false
  transfer : Bool := false
  deriving DecidableEq, Repr

/-- What a message box asks about: the destination, for the media state that was shown. -/
structure TransferReview (width : WCharWidth) where
  target : WString width
  expected : NativeCallMediaState
  deriving DecidableEq

/-- Where the thread of the user interface stands. -/
inductive CallPanelPoint (width : WCharWidth) where
  /-- In a message loop; that of a message box is one, too. -/
  | idle
  /-- `refresh_runtime_banner` -/
  | refreshing
  | gating (observed : SipRuntimeObservation)
  | showing (observed : SipRuntimeObservation)
  | toggling
  /-- A key of the dial pad, while the mode is armed. -/
  | keying (key : UInt8)
  /-- The buttons for the microphone and for the hold. -/
  | controlling (hold : Bool)
  /-- `VoiceApplicationService::answer` and `hangup` -/
  | answering (hangup : Bool)
  /-- The buttons of the preferences. -/
  | preferring (hangup : Bool)
  | transferring
  /-- `transfer_call`, before its feedback. -/
  | recording (review : TransferReview width)
  | submitting (request : CallRequest)
  deriving DecidableEq

structure CallPanel (width : WCharWidth) where
  calls : CallEngine width := {}
  point : CallPanelPoint width := .idle
  /-- `g_displayed_sip` -/
  displayed : SipRuntimeObservation := {}
  /-- `g_displayed_media` -/
  media : NativeCallMediaState := {}
  dtmf : NativeDtmfMode := {}
  duration : NativeCallDuration := {}
  /-- `WM_CREATE` gives the label its first text. -/
  durationLabel : WString width := wideText width "DURACAO --:--:--"
  signal : EssentialConnectionSignal := .offline
  actions : EssentialCallActions := {}
  controls : CallControls := {}
  number : NumberField width := {}
  /-- The open message boxes, the innermost first. -/
  reviews : List (TransferReview width) := []

/-- What the message loop hands to the window. -/
inductive CallPanelMessage (width : WCharWidth) where
  /-- The timer, and every other handler that refreshes the banner. -/
  | refresh
  | press (button : CallButton)
  /-- Answer and reject in the preferences. -/
  | preferences (reject : Bool)
  | key (index : Fin 12)
  | backspace
  | clear
  /-- The field is edited by other means. -/
  | edit (number : NumberField width)
  /-- The user closes the innermost message box. -/
  | confirm (yes : Bool)
  /-- What the interface asks of the engine elsewhere. -/
  | call (move : CallMove width)

inductive CallPanelMove (width : WCharWidth) where
  /-- The owner of the engine, or the SDK. -/
  | owner (move : CallMove width)
  | message (message : CallPanelMessage width)
  /-- The interface goes on with what it is at, with what its clock reads. -/
  | gui (now : UInt64)

/-- The moves of the user interface that are no commands for a call. -/
def besideControls : CallMove width → Bool
  | .submit request => request.action = .dial
  | .ui _ => true
  | _ => false

namespace CallPanel

variable (panel : CallPanel width) (ctype : WideCtype width)

def observation : SipRuntimeObservation := panel.calls.engine.view

/-- `g_sip_selection`, with the status that the engine reports at the moment. -/
def selection : EngineSelection := { engine := some panel.observation.sip, kind := .baresip }

/-- The handler has nothing left to do. -/
def rest : CallObserved × CallPanel width := (.nothing, { panel with point := .idle })

/-- The beginning of `refresh_runtime_banner`, up to the gate of the call button. -/
def observe (now : UInt64) : CallPanel width :=
  let observed := panel.observation
  let (snapshot, duration) := panel.duration.observe observed now
  { panel with
    displayed := observed
    duration := duration
    durationLabel := durationText width snapshot
    signal := essentialConnectionSignal observed observed.session
    point := .gating observed }

/-- The call button, and what the window offers for the call. -/
def gate (observed : SipRuntimeObservation) : CallPanel width :=
  let dial := authorizeDial ctype observed observed.session panel.selection panel.number.windowText
  let actions := essentialCallActions observed observed.session (dial.reason = .none)
  { panel with
    actions := actions
    controls := { panel.controls with
      dial := dial.reason = .none
      answer := actions.answer
      hangup := actions.hangup }
    point := .showing observed }

/-- The media of the call, and the end of `refresh_runtime_banner`. -/
def showMedia (observed : SipRuntimeObservation) : CallPanel width :=
  let media := panel.calls.engine.media
  let controls := nativeMediaControlsCurrent media observed
  { panel with
    media := if controls then media else {}
    dtmf := panel.dtmf.synchronize media observed
    controls := { panel.controls with
      dtmf := nativeDtmfControlsCurrent media observed
      media := controls
      transfer := controls && media.transfer = .none &&
        (validateAddress ctype panel.number.windowText).valid }
    point := .idle }

/-- The request of the buttons for the microphone and for the hold. -/
def mediaRequest (hold : Bool) : CallRequest :=
  { action := if hold then .setHold else .setMute
    desired := if hold then !panel.media.localHold else !panel.media.muted
    expected := some panel.media }

def keyRequest (key : UInt8) : CallRequest :=
  { action := .dtmf, uri := [key], expected := some panel.media }

/-- The request of the buttons that answer and hang up. -/
def callRequest (hangup : Bool) : CallRequest :=
  { action := if hangup then .hangup else .answer, displayed := some panel.displayed }

/-- The next step of the interface. -/
def guiStep (now : UInt64) : CallObserved × CallPanel width :=
  match panel.point with
  | .idle => (.nothing, panel)
  | .refreshing => (.nothing, panel.observe now)
  | .gating observed => (.nothing, panel.gate ctype observed)
  | .showing observed => (.nothing, panel.showMedia ctype observed)
  | .toggling =>
      (.nothing, { panel with
        dtmf := (panel.dtmf.toggle panel.media panel.observation).2
        point := .refreshing })
  | .keying key =>
      if panel.dtmf.active panel.media panel.observation && validNativeDtmfKey key then
        (.nothing, { panel with point := .submitting (panel.keyRequest key) })
      else panel.rest
  | .controlling hold =>
      if nativeMediaControlsCurrent panel.media panel.observation then
        (.nothing, { panel with point := .submitting (panel.mediaRequest hold) })
      else panel.rest
  | .answering hangup =>
      if nativeDisplayedCallCommandCurrent (panel.callRequest hangup).action panel.displayed
          panel.observation then
        (.nothing, { panel with point := .submitting (panel.callRequest hangup) })
      else panel.rest
  | .preferring reject =>
      if preferencesIncomingControlsAvailable panel.observation panel.displayed then
        (.nothing, { panel with point := .answering reject })
      else panel.rest
  | .transferring =>
      if !nativeMediaControlsCurrent panel.media panel.observation ||
          panel.media.transfer ≠ .none || !(validateAddress ctype panel.number.windowText).valid then
        panel.rest
      else
        (.nothing, { panel with
          point := .idle
          reviews := ⟨panel.number.windowText, panel.media⟩ :: panel.reviews })
  | .recording review =>
      let result := nativeTransferDestinationResult ctype review.target panel.calls.engine.account
      let (shown, calls) := callStep ctype panel.calls (.ui (.recorded result.error))
      (shown, { panel with
        calls := calls
        point := if !result.succeeds then .idle
          else .submitting
            { action := .transfer, uri := result.uri, expected := some review.expected } })
  | .submitting request =>
      let (shown, calls) := callStep ctype panel.calls (.submit request)
      (shown, { panel with calls := calls, point := .idle })

/-- The key edits the field, or goes to the call. -/
def pressKey (index : Fin 12) : CallPanel width :=
  if panel.dtmf.armed then { panel with point := .keying (dialpadKey index) }
  else { panel with number := panel.number.edit (wideKey width (dialpadKey index)) }

def handle : CallPanelMessage width → CallObserved × CallPanel width
  | .refresh => (.nothing, { panel with point := .refreshing })
  | .press .answer => (.nothing, { panel with point := .answering false })
  | .press .hangup => (.nothing, { panel with point := .answering true })
  | .press .mute => (.nothing, { panel with point := .controlling false })
  | .press .hold => (.nothing, { panel with point := .controlling true })
  | .press .transfer => (.nothing, { panel with point := .transferring })
  | .press .dtmf => (.nothing, { panel with point := .toggling })
  | .preferences reject => (.nothing, { panel with point := .preferring reject })
  | .key index => (.nothing, panel.pressKey index)
  | .backspace => (.nothing, { panel with number := panel.number.edit 8 })
  | .clear => (.nothing, { panel with number := panel.number.edit 0 })
  | .edit number => (.nothing, { panel with number := number })
  | .confirm yes =>
      match panel.reviews with
      | [] => (.nothing, panel)
      | review :: reviews =>
          (.nothing, { panel with
            reviews := reviews
            point := if yes then .recording review else .idle })
  | .call move =>
      if !besideControls move then (.nothing, panel)
      else
        let (shown, calls) := callStep ctype panel.calls move
        (shown, { panel with calls := calls })

end CallPanel

/-- The threads' steps; a message waits until the interface is in a message loop. -/
def callPanelStep (ctype : WideCtype width) (panel : CallPanel width) :
    CallPanelMove width → CallObserved × CallPanel width
  | .owner move =>
      if !ofOwner move then (.nothing, panel)
      else
        let (shown, calls) := callStep ctype panel.calls move
        (shown, { panel with calls := calls })
  | .message message =>
      match panel.point with
      | .idle => panel.handle ctype message
      | _ => (.nothing, panel)
  | .gui now => panel.guiStep ctype now

abbrev CallPanelStage (width : WCharWidth) :=
  Stage (CallPanel width) (CallPanelMove width) CallObserved

end AxeVoice.Desktop
