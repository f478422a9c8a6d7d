import AxeVoice.Command.Authorization
import AxeVoice.Cti.ClickToCall
import AxeVoice.Cti.Server
import AxeVoice.Foundation.Component
import AxeVoice.Native.CallEngine
import AxeVoice.Sip.RecentDestinations

/-!
# How the desktop dials

Every dial passes through the thread of the user interface: the button, a request
of the local CTI server, and a link that the user confirms.  That thread compares
what it reads of the engine again and again, while the worker of the server and
the owner of the engine go on.  A step is what one thread does up to its next
reading or writing of what another one shares.
-/

namespace AxeVoice.Desktop

open Command Cti Foundation Native Sip

variable {width : WCharWidth}

/-- On whose behalf the interface dials. -/
inductive DialSource where
  | button
  /-- A request that the interface has taken out of the queue. -/
  | request (id : UInt64)
  deriving DecidableEq

/-- Where the thread of the user interface stands. -/
inductive DeskPoint (width : WCharWidth) where
  /-- In a message loop; that of a message box is one, too. -/
  | idle
  /-- `refresh_runtime_banner`; the timer goes on with the request of the queue. -/
  | refreshing (timer : Bool)
  | judging (timer : Bool) (observed : SipRuntimeObservation)
  | publishing (timer : Bool) (observed : SipRuntimeObservation) (ready : Bool)
  /-- `set_ready` has stored that the engine is not ready. -/
  | rejecting (timer : Bool) (observed : SipRuntimeObservation)
  /-- Inside `take()`. -/
  | taking
  | taken (request : CtiPendingRequest width)
  | granting (request : CtiPendingRequest width) (observed : SipRuntimeObservation)
  /-- `try_dial_from_ui` -/
  | dialing (source : DialSource) (typed : WString width)
  | authorizing (source : DialSource) (typed : WString width) (observed : SipRuntimeObservation)
  /-- `VoiceApplicationService::dial` -/
  | rechecking (source : DialSource) (typed : WString width) (observed : SipRuntimeObservation)
      (destination : WString width)
  /-- `start_call`, before its feedback. -/
  | recording (source : DialSource) (typed : WString width) (observed : SipRuntimeObservation)
      (destination : WString width)
  | submitting (source : DialSource) (typed : WString width) (observed : SipRuntimeObservation)
      (uri : Bytes)
  | completing (id : UInt64) (submitted : Bool)
  /-- The handler of a link, before it looks at the engine. -/
  | linking (destination : WString width)
  | asking (destination : WString width) (observed : SipRuntimeObservation)

structure VoiceDesktop (width : WCharWidth) where
  server : LocalCtiServer width := {}
  calls : CallEngine width := {}
  point : DeskPoint width := .idle
  /-- The text of the field for the number. -/
  number : WString width := []
  /-- `g_external_click_uri` -/
  externalClickUri : Option (WString width) := none
  /-- The destinations that the open message boxes ask about, the innermost first. -/
  prompts : List (WString width) := []
  shutdownPending : Bool := false
  recentDestinations : RecentDestinations width := {}

/-- What the message loop hands to the window. -/
inductive DeskMessage (width : WCharWidth) where
  | timer
  /-- Another handler that refreshes the banner. -/
  | refresh
  /-- The server's notification of a request. -/
  | asyncCti
  | callButton
  /-- The field is edited: by the keyboard, the dial pad, a contact or a recent destination. -/
  | edit (number : WString width)
  /-- Another process hands over a link; `PostMessageW` may fail. -/
  | copyData (uri : WString width) (posted : Bool)
  | externalClick
  /-- The user closes the innermost message box. -/
  | answer (yes : Bool)
  | shutdown (pending : Bool)
  /-- What the interface asks of the engine beside the dials. -/
  | call (move : CallMove width)

inductive DeskMove (width : WCharWidth) where
  | worker (request : WorkerRequest width)
  /-- The owner of the engine, or the SDK. -/
  | owner (move : CallMove width)
  | message (message : DeskMessage width)
  /-- The interface goes on with what it is at. -/
  | gui

inductive DeskObserved (width : WCharWidth) where
  | nothing
  | server (observed : Observed width)
  | calls (observed : CallObserved)
  deriving DecidableEq

/-- The moves of the owner's thread. -/
def ofOwner : CallMove width → Bool
  | .submit _ | .ui _ => false
  | _ => true

/-- The moves of the user interface that are no dials. -/
def besideDials : CallMove width → Bool
  | .submit request => request.action ≠ .dial
  | .ui _ => true
  | _ => false

namespace VoiceDesktop

variable (desktop : VoiceDesktop width) (ctype : WideCtype width)

def observation : SipRuntimeObservation := desktop.calls.engine.view

/-- `g_sip_selection`, with the status that the engine reports at the moment. -/
def selection : EngineSelection := { engine := some desktop.observation.sip, kind := .baresip }

/-- A step of the server in a call of the interface. -/
def serverCall (call : GuiCall) : Observed width × LocalCtiServer width :=
  serverStep desktop.server (.gui call)

/-- The end of `refresh_runtime_banner`. -/
def refreshed (timer : Bool) (observed : SipRuntimeObservation) : VoiceDesktop width :=
  { desktop with
    recentDestinations := desktop.recentDestinations.synchronize observed
    point := if timer then .taking else .idle }

/-- `try_dial_from_ui` returns. -/
def dialed (submitted : Bool) : DialSource → VoiceDesktop width
  | .button => { desktop with point := .idle }
  | .request id => { desktop with point := .completing id submitted }

/-- The command that `VoiceApplicationService::dial` compares with what is shown. -/
def requested (observed : SipRuntimeObservation) : NativeCallCommand :=
  { action := .dial, session := observed.session }

/-- The readiness that the interface tells the server. -/
def judged (observed : SipRuntimeObservation) : Bool :=
  observed.callId = 0 && (authorizeCallCommand ctype observed observed.session desktop.selection
    .dial 0 (wideText width "1000")).allowed

/-- The next step of the interface. -/
def guiStep : DeskObserved width × VoiceDesktop width :=
  match desktop.point with
  | .idle => (.nothing, desktop)
  | .refreshing timer =>
      (.nothing, { desktop with point := .judging timer desktop.observation })
  | .judging timer observed =>
      (.nothing, { desktop with point := .publishing timer observed (desktop.judged ctype observed) })
  | .publishing timer observed ready =>
      let (shown, server) := desktop.serverCall (.setReady ready)
      let told := { desktop with server := server }
      (.server shown,
        if ready then told.refreshed timer observed
        else { told with point := .rejecting timer observed })
  | .rejecting timer observed =>
      let (shown, server) := desktop.serverCall (.setReady false)
      (.server shown, { desktop with server := server }.refreshed timer observed)
  | .taking =>
      let (shown, server) := desktop.serverCall .take
      (.server shown, { desktop with
        server := server
        point := match shown with
          | .taken (some request) => .taken request
          | .taken none => .idle
          | _ => .taking })
  | .taken request =>
      (.nothing, { desktop with point := .granting request desktop.observation })
  | .granting request observed =>
      let grant := authorizeCallCommand ctype observed observed.session desktop.selection .dial 0
        request.destination
      (.nothing,
        if !grant.allowed || desktop.shutdownPending then desktop.dialed false (.request request.id)
        else
          { desktop with
            number := grant.destination
            point := .dialing (.request request.id) grant.destination })
  | .dialing source typed =>
      (.nothing, { desktop with point := .authorizing source typed desktop.observation })
  | .authorizing source typed observed =>
      let permission := authorizeDial ctype observed observed.session desktop.selection typed
      (.nothing,
        if permission.reason ≠ .none then desktop.dialed false source
        else
          { desktop with
            point := .rechecking source typed observed permission.normalizedDestination })
  | .rechecking source typed observed destination =>
      (.nothing,
        if !(validateAddress ctype destination).valid ||
            !nativeCommandIsCurrent (requested observed) observed ||
            !nativeCommandIsCurrent (requested observed) desktop.observation then
          desktop.dialed false source
        else { desktop with point := .recording source typed observed destination })
  | .recording source typed observed destination =>
      let result := nativeCallDestinationResult ctype destination desktop.calls.engine.account
      let (shown, calls) := callStep ctype desktop.calls (.ui (.recorded result.error))
      let recorded := { desktop with calls := calls }
      (.calls shown,
        if result.succeeds then
          { recorded with point := .submitting source typed observed result.uri }
        else recorded.dialed false source)
  | .submitting source typed observed uri =>
      let (shown, calls) := callStep ctype desktop.calls (.submit { action := .dial, uri := uri })
      let submitted := { desktop with calls := calls }
      (.calls shown,
        if shown = .submitted true then
          { submitted with recentDestinations :=
              (desktop.recentDestinations.remember ctype observed typed true).2 }.dialed true source
        else submitted.dialed false source)
  | .completing id submitted =>
      let (shown, server) := desktop.serverCall (.complete id submitted)
      (.server shown, { desktop with server := server, point := .idle })
  | .linking destination =>
      (.nothing, { desktop with point := .asking destination desktop.observation })
  | .asking destination observed =>
      let permission := authorizeCallCommand ctype observed observed.session desktop.selection .dial
        0 destination
      (.nothing,
        if !permission.allowed then { desktop with point := .idle }
        else
          { desktop with point := .idle, prompts := permission.destination :: desktop.prompts })

/-- `WM_COPYDATA` -/
def copyData (uri : WString width) (posted : Bool) : VoiceDesktop width :=
  if desktop.externalClickUri.isSome || uri.isEmpty || uri.length > 512 || uri.any (· = 0) ||
      (parseAxvoiceClickToCallUri ctype uri).isNone || !posted then desktop
  else { desktop with externalClickUri := some uri }

/-- The handler of the message that a link posts. -/
def externalClick : VoiceDesktop width :=
  match desktop.externalClickUri with
  | none => desktop
  | some uri =>
      match parseAxvoiceClickToCallUri ctype uri with
      | none => { desktop with externalClickUri := none }
      | some destination =>
          { desktop with
            externalClickUri := none
            number := destination
            point := .linking destination }

/-- The user closes the innermost message box; `yes` presses the call button. -/
def answer (yes : Bool) : VoiceDesktop width :=
  match desktop.prompts with
  | [] => desktop
  | _ :: prompts =>
      { desktop with
        prompts := prompts
        point := if yes then .dialing .button (desktop.number.take 255) else .idle }

def handle : DeskMessage width → DeskObserved width × VoiceDesktop width
  | .timer => (.nothing, { desktop with point := .refreshing true })
  | .refresh => (.nothing, { desktop with point := .refreshing false })
  | .asyncCti =>
      (.nothing, { desktop with point := if desktop.shutdownPending then .idle else .taking })
  | .callButton =>
      (.nothing, { desktop with point := .dialing .button (desktop.number.take 255) })
  | .edit number => (.nothing, { desktop with number := number })
  | .copyData uri posted => (.nothing, desktop.copyData ctype uri posted)
  | .externalClick => (.nothing, desktop.externalClick ctype)
  | .answer yes => (.nothing, desktop.answer yes)
  | .shutdown pending => (.nothing, { desktop with shutdownPending := pending })
  | .call move =>
      if !besideDials move then (.nothing, desktop)
      else
        let (shown, calls) := callStep ctype desktop.calls move
        (.calls shown, { desktop with calls := calls })

end VoiceDesktop

/-- The threads' steps; a message waits until the interface is in a message loop. -/
def deskStep (ctype : WideCtype width) (desktop : VoiceDesktop width) :
    DeskMove width → DeskObserved width × VoiceDesktop width
  | .worker request =>
      let (shown, server) := serverStep desktop.server (.worker request)
      (.server shown, { desktop with server := server })
  | .owner move =>
      if !ofOwner move then (.nothing, desktop)
      else
        let (shown, calls) := callStep ctype desktop.calls move
        (.calls shown, { desktop with calls := calls })
  | .message message =>
      match desktop.point with
      | .idle => desktop.handle ctype message
      | _ => (.nothing, desktop)
  | .gui => desktop.guiStep ctype

abbrev DeskStage (width : WCharWidth) := Stage (VoiceDesktop width) (DeskMove width) (DeskObserved width)

/-- `wWinMain` starts the desktop, with the link of its command line. -/
def VoiceDesktop.launched (ctype : WideCtype width) (link : Option (WString width)) :
    VoiceDesktop width :=
  { calls := { sdk := { adapter := { lifecycle := { ingress := { mailbox := default } } } } }
    externalClickUri := link.filter fun uri => (parseAxvoiceClickToCallUri ctype uri).isSome }

/-- The stages of a run of the desktop. -/
def deskRun (ctype : WideCtype width) (link : Option (WString width))
    (moves : List (DeskMove width)) : List (DeskStage width) :=
  stages (deskStep ctype) (.launched ctype link) moves

/-- Where a run of the desktop ends. -/
def deskEnd (ctype : WideCtype width) (link : Option (WString width))
    (moves : List (DeskMove width)) : VoiceDesktop width :=
  finalState (deskStep ctype) (.launched ctype link) moves

end AxeVoice.Desktop
