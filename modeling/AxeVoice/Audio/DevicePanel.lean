import AxeVoice.Native.CommandAdmission

/-!
# The audio devices of the desktop

The system tells an observer, on a thread of its own, that the audio devices have
changed.  The desktop looks for that with its timer, drops the inventory that it
has, and asks for another one when the changes have come to rest.  The thread that
asks the drivers goes on meanwhile, and so does the user.
-/

namespace AxeVoice.Audio

open Foundation Native

variable {width : WCharWidth}

inductive AudioDeviceChangeSignal where
  | clean
  | dirty
  | closed
  deriving DecidableEq, Repr

namespace AudioDeviceChangeSignal

def notify : AudioDeviceChangeSignal → AudioDeviceChangeSignal
  | .clean => .dirty
  | other => other

def take : AudioDeviceChangeSignal → Bool × AudioDeviceChangeSignal
  | .dirty => (true, .clean)
  | other => (false, other)

def close (_ : AudioDeviceChangeSignal) : AudioDeviceChangeSignal := .closed

end AudioDeviceChangeSignal

inductive EndpointFlow where
  | render
  | capture
  | all
  deriving DecidableEq, Repr

inductive EndpointRole where
  | console
  | multimedia
  | communications
  deriving DecidableEq, Repr

inductive EndpointNotification where
  | deviceStateChanged
  | deviceAdded
  | deviceRemoved
  | defaultDeviceChanged (flow : EndpointFlow) (role : EndpointRole)
  | propertyValueChanged
  deriving DecidableEq, Repr

/-- Whether `EndpointNotificationClient` passes it on. -/
def EndpointNotification.notifies : EndpointNotification → Bool
  | .defaultDeviceChanged flow role =>
      (flow = .capture || flow = .render) && (role = .multimedia || role = .communications)
  | .deviceStateChanged | .deviceAdded | .deviceRemoved | .propertyValueChanged => true

/-- Each observer has a signal of its own, which a late notification still finds. -/
structure AudioEndpointWatcher where
  signals : List AudioDeviceChangeSignal := []
  signal : Option ℕ := none
  comInitialized : Bool := false
  enumerator : Bool := false
  registered : Bool := false
  deriving DecidableEq, Repr

/-- Where `start` fails, if it does. -/
inductive WatcherFailure where
  | signal
  | sink
  | com
  | enumerator
  | registration
  deriving DecidableEq, Repr

namespace AudioEndpointWatcher

variable (watcher : AudioEndpointWatcher)

def changeSignal (index : ℕ) (change : AudioDeviceChangeSignal → AudioDeviceChangeSignal) :
    AudioEndpointWatcher :=
  { watcher with signals := watcher.signals.modify index change }

def stop : AudioEndpointWatcher :=
  let closed := watcher.signal.elim watcher fun index => watcher.changeSignal index (·.close)
  { signals := closed.signals }

def start (failure : Option WatcherFailure) : Bool × AudioEndpointWatcher :=
  if watcher.registered then (true, watcher)
  else
    let stopped := watcher.stop
    if failure = some .signal then (false, stopped.stop)
    else
      let signalled := { stopped with
        signals := stopped.signals ++ [AudioDeviceChangeSignal.clean], signal := some stopped.signals.length }
      if failure = some .sink || failure = some .com then (false, signalled.stop)
      else
        let initialized := { signalled with comInitialized := true }
        if failure = some .enumerator then (false, initialized.stop)
        else
          let created := { initialized with enumerator := true }
          if failure = some .registration then (false, created.stop)
          else (true, { created with registered := true })

/-- A callback of the observer that has this signal. -/
def callback (index : ℕ) (notification : EndpointNotification) : AudioEndpointWatcher :=
  if notification.notifies then watcher.changeSignal index (·.notify) else watcher

def current : Option AudioDeviceChangeSignal := watcher.signal.bind fun index => watcher.signals[index]?

def takeChanged : Bool × AudioEndpointWatcher :=
  match watcher.registered, watcher.signal, watcher.current with
  | true, some index, some signal => (signal.take.1, watcher.changeSignal index fun _ => signal.take.2)
  | _, _, _ => (false, watcher)

end AudioEndpointWatcher

def isAudioDeviceChange (kind : UInt64) : Bool :=
  kind = 0x8000 || kind = 0x8004 || kind = 0x0007 || kind = 0x0018

/-- The sum, or the largest number. -/
def saturated (now delay : UInt64) : UInt64 :=
  if now > 0xFFFFFFFFFFFFFFFF - delay then 0xFFFFFFFFFFFFFFFF else now + delay

structure AudioDeviceChangePolicy where
  active : Bool := false
  dirty : Bool := false
  lastMs : UInt64 := 0
  dirtyMs : UInt64 := 0
  periodicMs : UInt64 := 0
  deriving DecidableEq, Repr

namespace AudioDeviceChangePolicy

variable (policy : AudioDeviceChangePolicy)

def enter (now : UInt64) : AudioDeviceChangePolicy :=
  { policy with
    active := true, dirty := false, lastMs := now, periodicMs := saturated now 5000 }

def leave : AudioDeviceChangePolicy := { policy with active := false, dirty := false }

/-- A clock that goes back brings no deadline forward. -/
def observe (now : UInt64) : AudioDeviceChangePolicy :=
  if now > policy.lastMs then { policy with lastMs := now } else policy

def changed (now : UInt64) : AudioDeviceChangePolicy :=
  if policy.active then
    let observed := { policy with dirty := true }.observe now
    { observed with dirtyMs := saturated observed.lastMs 250 }
  else policy

def shouldRefresh (now : UInt64) (dropdownOpen : Bool) : Bool :=
  policy.active && !dropdownOpen &&
    ((policy.dirty && now ≥ policy.dirtyMs) || now ≥ policy.periodicMs)

def completed (now : UInt64) : AudioDeviceChangePolicy :=
  if policy.active then
    { policy.observe now with periodicMs := saturated (policy.observe now).lastMs 5000 }
  else policy

def refreshed (now : UInt64) : AudioDeviceChangePolicy :=
  if policy.active then { policy with dirty := false }.completed now else policy

end AudioDeviceChangePolicy

def audioDeviceRefreshDue (policy : AudioDeviceChangePolicy) (now : UInt64) (dropdownOpen : Bool)
    (inventory : AudioInventoryAsyncSnapshot) : Bool :=
  !inventory.closed && !inventory.busy && !inventory.pending && !inventory.ready &&
    policy.shouldRefresh now dropdownOpen

structure AudioInventoryRetry where
  deadlineMs : UInt64 := 0
  deriving DecidableEq, Repr

namespace AudioInventoryRetry

variable (retry : AudioInventoryRetry)

def ready (now : UInt64) : Bool := now ≥ retry.deadlineMs

def failed (now : UInt64) : AudioInventoryRetry :=
  if saturated now 1000 > retry.deadlineMs then ⟨saturated now 1000⟩ else retry

end AudioInventoryRetry

/-- The ringtone device of the identifier, or the multimedia default where there is none. -/
def fixedNativeRingtoneSelection (outputs : List (AudioEndpoint width)) (id : WString width) :
    AudioSelectionRefresh width :=
  match outputs.findIdx? fun device =>
      if id.isEmpty then device.defaultMultimedia else device.id = id with
  | some index => ⟨index, id, false⟩
  | none => ⟨-1, id, false⟩

structure AudioPanelSelection (width : WCharWidth) where
  inputId : WString width := []
  outputId : WString width := []
  ringtoneId : WString width := []
  deriving DecidableEq

inductive AudioRole where
  | input
  | output
  | ringtone
  deriving DecidableEq, Repr

namespace AudioPanelSelection

variable (selection : AudioPanelSelection width)

def get : AudioRole → WString width
  | .input => selection.inputId
  | .output => selection.outputId
  | .ringtone => selection.ringtoneId

def set (id : WString width) : AudioRole → AudioPanelSelection width
  | .input => { selection with inputId := id }
  | .output => { selection with outputId := id }
  | .ringtone => { selection with ringtoneId := id }

end AudioPanelSelection

/-- A critical section of the GUI thread, with what it does before the next one. -/
inductive PanelOp where
  | enter (now : UInt64)
  | takeChanged (now : UInt64)
  /-- `audio_devices_changed` -/
  | changed (now : UInt64)
  | refreshDue (now : UInt64) (dropdownOpen : Bool) (requested : UInt64)
  /-- `request_audio_panel` -/
  | request (now : UInt64)
  | pollInventory (now : UInt64) (dropdownOpen constructed : Bool)
  | start (now : UInt64) (constructed : Bool)
  | launchFailed (now : UInt64)
  | take (now : UInt64)
  /-- The page of the devices is left. -/
  | leave
  | close
  deriving DecidableEq, Repr

/-- What the preferences were filled with. -/
structure PreferencesDraft (width : WCharWidth) where
  inputs : List (AudioEndpoint width)
  outputs : List (AudioEndpoint width)

structure AudioPanel (width : WCharWidth) where
  worker : InventoryHost width := {}
  watcher : AudioEndpointWatcher := {}
  policy : AudioDeviceChangePolicy := {}
  retry : AudioInventoryRetry := {}
  current : Bool := false
  inputs : List (AudioEndpoint width) := []
  outputs : List (AudioEndpoint width) := []
  selection : AudioPanelSelection width := {}
  page : ℕ := 0
  preferences : Option (PreferencesDraft width) := none
  todo : List PanelOp := []

/-- What the engine answers: the route of its session, unless it is stopped. -/
abbrev SessionRoute (width : WCharWidth) := Option (NativeAudioRoute width)

inductive PanelMessage (width : WCharWidth) where
  | timer (notified : UInt64) (due : Bool) (requested polled : UInt64) (open_ constructed : Bool)
  | deviceChange (kind now : UInt64)
  /-- `show_page`; the page of the devices is always shown with a request. -/
  | showPage (page : ℕ) (now requested : UInt64)
  | refreshButton (now : UInt64)
  | choose (role : AudioRole) (row : Option ℕ) (route : SessionRoute width)
  | openPreferences
  /-- The rows of the dialog, where one is selected, or nothing where it was cancelled. -/
  | closePreferences (rows : Option (AudioRole → Option ℕ)) (route : SessionRoute width)
  | destroy

inductive PanelMove (width : WCharWidth) where
  | message (message : PanelMessage width)
  /-- `apply_audio_inventory` reads the route of the session. -/
  | gui (movedFrom : AudioInventory width) (route : SessionRoute width)
  | callback (observer : ℕ) (notification : EndpointNotification)
  | startWatcher (failure : Option WatcherFailure)
  | probed (thread : ℕ) (answer : Option (AudioInventory width))
  | completed (thread : ℕ)

inductive PanelObserved (width : WCharWidth) where
  | nothing
  | worker (observed : InventoryObserved width)

namespace AudioPanel

variable (panel : AudioPanel width)

def devices : AudioRole → List (AudioEndpoint width)
  | .input => panel.inputs
  | .output | .ringtone => panel.outputs

/-- `fill_audio_combo` keeps the identifier, also of a device that is gone. -/
def applyAudioInventory (inventory : AudioInventory width) (route : SessionRoute width) :
    AudioPanel width :=
  let bound := route.elim panel.selection fun route =>
    { panel.selection with inputId := route.captureId, outputId := route.playbackId }
  if inventory.error ≠ .none then { panel with selection := bound, current := false }
  else
    { panel with
      current := true
      inputs := inventory.inputDevices
      outputs := inventory.outputDevices
      selection := {
        inputId := (fixedNativeAudioSelection inventory.inputDevices bound.inputId).selectedId
        outputId := (fixedNativeAudioSelection inventory.outputDevices bound.outputId).selectedId
        ringtoneId :=
          (fixedNativeRingtoneSelection inventory.outputDevices bound.ringtoneId).selectedId } }

/-- The identifier in the row; the first row stands for the default of the system. -/
def rowId (role : AudioRole) : ℕ → Option (WString width)
  | 0 => some []
  | row + 1 => (panel.devices role)[row]?.map AudioEndpoint.id

def choose (role : AudioRole) (row : Option ℕ) (route : SessionRoute width) : AudioPanel width :=
  if role ≠ .ringtone && route.isSome then panel
  else
    match row.bind (panel.rowId role) with
    | some id => { panel with selection := panel.selection.set id role }
    | none => panel

/-- The row of the dialog, in the list that there is now. -/
def prefer (rows : AudioRole → Option ℕ) (role : AudioRole) : AudioPanel width :=
  match (rows role).bind fun row => (panel.devices role)[row]? with
  | some device => { panel with selection := panel.selection.set device.id role }
  | none => panel

def acceptPreferences (rows : AudioRole → Option ℕ) (route : SessionRoute width) :
    AudioPanel width :=
  let routed := if route.isNone then (panel.prefer rows .input).prefer rows .output else panel
  routed.prefer rows .ringtone

def pageOps (page : ℕ) (now requested : UInt64) : List PanelOp :=
  (if panel.page ≠ page && panel.page = 2 then [.leave] else []) ++
    (if panel.page ≠ page && page = 2 then [.enter now] else []) ++
    (if page = 2 then [.request requested] else [])

/-- A message that comes while the GUI thread is at none. -/
def handle : PanelMessage width → AudioPanel width
  | .timer notified due requested polled open_ constructed =>
      { panel with todo := [.takeChanged notified, .refreshDue notified due requested,
          .pollInventory polled open_ constructed] }
  | .deviceChange kind now =>
      if isAudioDeviceChange kind then { panel with todo := [.changed now] } else panel
  | .showPage page now requested =>
      { panel with todo := panel.pageOps page now requested, page := page }
  | .refreshButton now => { panel with todo := [.request now] }
  | .choose role row route => panel.choose role row route
  | .openPreferences => { panel with preferences := some ⟨panel.inputs, panel.outputs⟩ }
  | .closePreferences rows route =>
      match panel.preferences, rows with
      | some _, some rows => { panel.acceptPreferences rows route with preferences := none }
      | _, _ => { panel with preferences := none }
  | .destroy => { panel with todo := [.close] }

/-- The step of the inventory within an operation. -/
def asked (movedFrom : AudioInventory width) : PanelOp → Option (InventoryMove width)
  | .changed _ | .leave => some .cancel
  | .request _ => some .request
  | .start _ constructed => some (.startPending constructed)
  | .take _ => some (.take movedFrom)
  | .close => some .close
  | .enter _ | .takeChanged _ | .refreshDue _ _ _ | .pollInventory _ _ _ | .launchFailed _ => none

/-- The panel behind an operation whose step of the inventory is done. -/
def finish (route : SessionRoute width) (observed : Option (InventoryObserved width)) :
    PanelOp → AudioPanel width
  | .enter now => { panel with policy := panel.policy.enter now }
  | .takeChanged now =>
      let (changed, watcher) := panel.watcher.takeChanged
      { panel with
        watcher := watcher
        todo := if changed then .changed now :: panel.todo else panel.todo }
  | .changed now =>
      { panel with retry := {}, current := false, policy := panel.policy.changed now }
  | .refreshDue now dropdownOpen requested =>
      if audioDeviceRefreshDue panel.policy now dropdownOpen panel.worker.state.snapshot then
        { panel with todo := .request requested :: panel.todo }
      else panel
  | .request now => { panel with current := false, policy := panel.policy.refreshed now }
  | .pollInventory now dropdownOpen constructed =>
      if dropdownOpen then panel
      else if panel.worker.state.snapshot.pending && panel.retry.ready now then
        { panel with todo := .start now constructed :: .take now :: panel.todo }
      else { panel with todo := .take now :: panel.todo }
  | .start now _ =>
      match observed with
      | some (.started (some _)) => { panel with retry := {} }
      | _ => { panel with todo := .launchFailed now :: panel.todo }
  | .launchFailed now =>
      if panel.worker.state.snapshot.launchFailed then
        { panel with retry := panel.retry.failed now }
      else panel
  | .take now =>
      match observed with
      | some (.took (some inventory)) =>
          { panel with policy := panel.policy.completed now }.applyAudioInventory inventory route
      | _ => panel
  | .leave =>
      { panel with policy := panel.policy.leave, retry := {}, current := false }
  | .close => { panel with watcher := panel.watcher.stop }

def guiStep (movedFrom : AudioInventory width) (route : SessionRoute width) :
    PanelObserved width × AudioPanel width :=
  match panel.todo with
  | [] => (.nothing, panel)
  | op :: rest =>
      match asked movedFrom op with
      | none => (.nothing, { panel with todo := rest }.finish route none op)
      | some move =>
          let (observed, worker) := inventoryStep panel.worker move
          (.worker observed,
            { panel with todo := rest, worker := worker }.finish route (some observed) op)

end AudioPanel

def panelStep (panel : AudioPanel width) :
    PanelMove width → PanelObserved width × AudioPanel width
  | .message message => (.nothing, if panel.todo.isEmpty then panel.handle message else panel)
  | .gui movedFrom route => panel.guiStep movedFrom route
  | .callback observer notification =>
      (.nothing, { panel with watcher := panel.watcher.callback observer notification })
  | .startWatcher failure => (.nothing, { panel with watcher := (panel.watcher.start failure).2 })
  | .probed thread answer =>
      let (observed, worker) := inventoryStep panel.worker (.probed thread answer)
      (.worker observed, { panel with worker := worker })
  | .completed thread =>
      let (observed, worker) := inventoryStep panel.worker (.completed thread)
      (.worker observed, { panel with worker := worker })

/-- The window is created. -/
def AudioPanel.launched (now requested : UInt64) : AudioPanel width :=
  { todo := [.enter now, .request requested] }

abbrev PanelStage (width : WCharWidth) :=
  Stage (AudioPanel width) (PanelMove width) (PanelObserved width)

end AxeVoice.Audio
