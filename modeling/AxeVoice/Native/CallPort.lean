import AxeVoice.Native.Agreement
import AxeVoice.Native.CommandAdmission

/-!
# The call port

What the owner of the event loop asks of the SDK for the call that the adapter
holds.  The port is made for one tick; it refuses every call but the active one
of the session for which it was made, and notes what it asks in the adapter's
flags before the SDK can call back.
-/

namespace AxeVoice.Native

open Foundation Sip

/-- What the SDK answers while the port looks at a call. -/
structure CallAnswers where
  uaIsregistered : Bool
  /-- `call_audio` finds something. -/
  audio : Bool
  /-- `audio_ismuted` -/
  muted : Bool
  /-- `call_is_onhold` -/
  onHold : Bool
  /-- `call_account` finds an account that sends DTMF by INFO. -/
  sipInfo : Bool
  deriving DecidableEq, Repr

def einval : Int32 := 22

def enotsup : Int32 := 129

def ealready : Int32 := 103

structure BaresipSdkCallPort where
  capturedSession : UInt64
  deriving DecidableEq, Repr

namespace BaresipSdkCallPort

def of (adapter : BaresipSdkEventAdapter) : BaresipSdkCallPort := ⟨adapter.session⟩

variable (port : BaresipSdkCallPort) (adapter : BaresipSdkEventAdapter)

def ownsSession (uaIsregistered : Bool) : Bool :=
  port.capturedSession ≠ 0 && adapter.active &&
    adapter.captured.mailboxSession = port.capturedSession && adapter.owner ≠ 0 &&
    adapter.nativeRegisterOkSeen uaIsregistered

def resolve (uaIsregistered : Bool) (token : UInt64) : Option Address :=
  if !port.ownsSession adapter uaIsregistered || token = 0 || token ≠ adapter.activeToken ||
      adapter.activeCall = 0 then none
  else some adapter.activeCall

/-- A call whose media the port may touch. -/
def established (uaIsregistered : Bool) (token : UInt64) : Bool :=
  (port.resolve adapter uaIsregistered token).isSome && adapter.callEstablished &&
    !adapter.hangupSent

def mediaState (answers : CallAnswers) (token : UInt64) : NativeCallMediaState :=
  if !port.established adapter answers.uaIsregistered token || !answers.audio then {}
  else
    { session := port.capturedSession
      callId := token
      available := true
      muted := answers.muted
      localHold := answers.onHold
      transfer :=
        if adapter.transferAttempted then
          if adapter.transferFailed then .failed else .submitted
        else .none }

/-- `answer` up to `ua_answer`; nothing where that is not called. -/
def answer (answers : CallAnswers) (token : UInt64) : Option BaresipSdkEventAdapter :=
  if (port.resolve adapter answers.uaIsregistered token).isNone || !adapter.activeIncoming ||
      adapter.callEstablished || adapter.answerSent || adapter.hangupSent then none
  -- the action is noted before native callbacks come in between
  else some { adapter with answerSent := true }

def hangup (answers : CallAnswers) (token : UInt64) : Option BaresipSdkEventAdapter :=
  if (port.resolve adapter answers.uaIsregistered token).isNone || adapter.hangupSent then none
  else some { adapter with hangupSent := true }

/-- `set_muted` up to the SDK. -/
def setMuted (answers : CallAnswers) (token : UInt64) : Option BaresipSdkEventAdapter :=
  if !port.established adapter answers.uaIsregistered token || !answers.audio then none
  else some adapter

/-- `set_held` up to `call_hold`, or what it returns without it. -/
def setHeld (answers : CallAnswers) (token : UInt64) (desired : Bool) :
    Except Int32 BaresipSdkEventAdapter :=
  if !port.established adapter answers.uaIsregistered token then .error einval
  else if answers.onHold = desired then .error 0
  else .ok adapter

def sendDtmfInfo (answers : CallAnswers) (token : UInt64) (key : UInt8) :
    Except Int32 BaresipSdkEventAdapter :=
  if !validNativeDtmfKey key then .error einval
  else if !port.established adapter answers.uaIsregistered token || adapter.transferAttempted ||
      answers.onHold then .error einval
  else if !answers.sipInfo then .error enotsup
  else .ok adapter

variable {width : WCharWidth}

def transfer (ctype : WideCtype width) (answers : CallAnswers) (token : UInt64) (uri : Bytes) :
    Except Int32 BaresipSdkEventAdapter :=
  if !validNativeTransferUri ctype uri then .error einval
  else if !port.established adapter answers.uaIsregistered token then .error einval
  else if adapter.transferAttempted then .error ealready
  else .ok { adapter with transferAttempted := true, transferFailed := false }

/-- `transfer` from the return of `call_transfer`, behind which the call may be another one. -/
def transferred (uaIsregistered : Bool) (token : UInt64) (error : Int32) :
    BaresipSdkEventAdapter :=
  if port.ownsSession adapter uaIsregistered && adapter.activeToken = token then
    { adapter with transferFailed := adapter.transferFailed || error ≠ 0 }
  else adapter

end BaresipSdkCallPort

/-- Adapters that differ in what the port notes of its own actions. -/
def SameButNotes (before after : BaresipSdkEventAdapter) : Prop :=
  ∃ hangupSent answerSent transferAttempted transferFailed, after = { before with
    hangupSent := hangupSent
    answerSent := answerSent
    transferAttempted := transferAttempted
    transferFailed := transferFailed }

theorem sameButNotes_refl (adapter : BaresipSdkEventAdapter) : SameButNotes adapter adapter :=
  ⟨_, _, _, _, rfl⟩

/-- The notes of the port are nothing to the agreement of the adapter with the projection. -/
theorem Coupled.noted {run : SdkRun} (coupled : Coupled run) {adapter : BaresipSdkEventAdapter}
    (same : SameButNotes run.adapter adapter) : Coupled { run with adapter := adapter } := by
  obtain ⟨hangupSent, answerSent, transferAttempted, transferFailed, rfl⟩ := same
  exact ⟨⟨coupled.sound.quiet, coupled.sound.epochs, coupled.sound.issued, fun active =>
      (coupled.sound.kept active).imp fun _ represents => { represents with }⟩,
    coupled.tracked, coupled.agree⟩

namespace BaresipSdkCallPort

variable {port : BaresipSdkCallPort} {adapter after : BaresipSdkEventAdapter}
  {answers : CallAnswers} {token : UInt64}

theorem answer_noted (asked : port.answer adapter answers token = some after) :
    SameButNotes adapter after := by
  unfold answer at asked
  split at asked
  · cases asked
  · cases asked
    exact ⟨_, _, _, _, rfl⟩

theorem hangup_noted (asked : port.hangup adapter answers token = some after) :
    SameButNotes adapter after := by
  unfold hangup at asked
  split at asked
  · cases asked
  · cases asked
    exact ⟨_, _, _, _, rfl⟩

theorem setMuted_noted (asked : port.setMuted adapter answers token = some after) :
    SameButNotes adapter after := by
  unfold setMuted at asked
  split at asked
  · cases asked
  · cases asked
    exact sameButNotes_refl adapter

theorem setHeld_noted {desired : Bool}
    (asked : port.setHeld adapter answers token desired = .ok after) :
    SameButNotes adapter after := by
  unfold setHeld at asked
  split at asked
  · cases asked
  · split at asked
    · cases asked
    · cases asked
      exact sameButNotes_refl adapter

theorem sendDtmfInfo_noted {key : UInt8}
    (asked : port.sendDtmfInfo adapter answers token key = .ok after) :
    SameButNotes adapter after := by
  unfold sendDtmfInfo at asked
  split at asked
  · cases asked
  · split at asked
    · cases asked
    · split at asked
      · cases asked
      · cases asked
        exact sameButNotes_refl adapter

theorem transfer_noted {width : WCharWidth} {ctype : WideCtype width} {uri : Bytes}
    (asked : port.transfer adapter ctype answers token uri = .ok after) :
    SameButNotes adapter after := by
  unfold transfer at asked
  split at asked
  · cases asked
  · split at asked
    · cases asked
    · split at asked
      · cases asked
      · cases asked
        exact ⟨_, _, _, _, rfl⟩

theorem transferred_noted (port : BaresipSdkCallPort) (adapter : BaresipSdkEventAdapter)
    (uaIsregistered : Bool) (token : UInt64) (error : Int32) :
    SameButNotes adapter (port.transferred adapter uaIsregistered token error) := by
  unfold transferred
  split
  · exact ⟨_, _, _, _, rfl⟩
  · exact sameButNotes_refl adapter

end BaresipSdkCallPort

end AxeVoice.Native
