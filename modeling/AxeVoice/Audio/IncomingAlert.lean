import AxeVoice.Audio.RingtonePlayer
import AxeVoice.Native.CommandAdmission

/-!
# The alert of an incoming call

Whenever the desktop shows what the engine observes, it asks for the ringtone that
goes with it, or for none, and announces a call that it has not shown before.  The
user may acknowledge the call, which silences it, or mute every ringtone.  The
thread that renders goes on meanwhile.
-/

namespace AxeVoice.Audio

open Foundation Native Sip

variable {width : WCharWidth}

def verifiedIncomingCall (call : SipRuntimeObservation) : Bool :=
  call.callId ≠ 0 && call.sip = .ringing && sipProofIsCurrent call call.session

structure IncomingRingtonePolicy where
  silencedSession : UInt64 := 0
  silencedCall : UInt64 := 0
  deriving DecidableEq, Repr

namespace IncomingRingtonePolicy

variable (policy : IncomingRingtonePolicy)

def request (call : SipRuntimeObservation) (id : WString width) (previewPlaying soundMuted : Bool) :
    IncomingRingtoneRequest width :=
  if soundMuted || previewPlaying || !verifiedIncomingCall call || !validRingtoneEndpoint id ||
      (call.session = policy.silencedSession && call.callId = policy.silencedCall) then {}
  else ⟨call.session, call.callId, id⟩

def silence (call : SipRuntimeObservation) : IncomingRingtonePolicy :=
  if verifiedIncomingCall call then ⟨call.session, call.callId⟩ else policy

end IncomingRingtonePolicy

/-- What the GUI thread has still to do. -/
inductive AlertOp (width : WCharWidth) where
  | snapshot (request : IncomingRingtoneRequest width) (accepted : Bool)
  | shutdown
  | join

structure IncomingAlert (width : WCharWidth) where
  policy : IncomingRingtonePolicy := {}
  displayed : SipRuntimeObservation := {}
  lastVisual : UInt64 × UInt64 := (0, 0)
  muted : Bool := false
  errorVisible : Bool := false
  host : RingtoneHost width := {}
  todo : List (AlertOp width) := []

inductive AlertMove (width : WCharWidth) where
  /-- `synchronize_incoming_alert`; the thread of the player may be refused. -/
  | synchronize (observed : SipRuntimeObservation) (endpoint : WString width)
      (previewing refused : Bool)
  /-- The call is answered or hung up, or the engine is stopped. -/
  | acknowledge
  | mute
  | prefer (mute : Bool)
  /-- Another ringtone is chosen. -/
  | preset
  | destroy
  | gui
  | worker (index : ℕ) (turn : RingtoneHost.Turn)

inductive AlertObserved where
  | nothing
  /-- The window flashes, or the tray shows a text. -/
  | announced (call : UInt64 × UInt64)
  deriving DecidableEq, Repr

def shownCall (observed : SipRuntimeObservation) : UInt64 × UInt64 :=
  (observed.session, observed.callId)

namespace IncomingAlert

variable (alert : IncomingAlert width)

def works (move : RingtoneMove width) : IncomingAlert width :=
  { alert with host := (ringtoneStep alert.host move).2 }

def announces (observed : SipRuntimeObservation) : Bool :=
  verifiedIncomingCall observed && alert.lastVisual ≠ shownCall observed

def synchronize (observed : SipRuntimeObservation) (endpoint : WString width)
    (previewing refused : Bool) : AlertObserved × IncomingAlert width :=
  let request := alert.policy.request observed endpoint previewing alert.muted
  let (accepted, host) := alert.host.synchronize (if refused then .thread else .none) request
  (if alert.announces observed then .announced (shownCall observed) else .nothing,
    { alert with
      displayed := observed
      lastVisual := if alert.announces observed then shownCall observed
        else alert.lastVisual
      host := host
      todo := [.snapshot request (accepted.getD false)] })

def acknowledge : IncomingAlert width :=
  { alert.works .stop with policy := alert.policy.silence alert.displayed }

def setMuted (muted : Bool) : IncomingAlert width :=
  { (if muted then alert.works .stop else alert) with muted := muted }

def failedRender : TonePreviewState → Bool
  | .missingDevice | .unsupportedFormat | .failed => true
  | .idle | .playing | .played | .cancelled => false

/-- The text that tells of an alert that cannot be heard. -/
def snapshot (request : IncomingRingtoneRequest width) (accepted : Bool) : IncomingAlert width :=
  let state := alert.host.player.state
  let matching := state.request.session = request.session && state.request.callId = request.callId
  { alert with
    errorVisible := request.active && (!accepted || (matching && failedRender state.result)) }

def guiStep : IncomingAlert width :=
  match alert.todo with
  | [] => alert
  | .snapshot request accepted :: rest => { alert.snapshot request accepted with todo := rest }
  | .shutdown :: rest => { alert.works .shutdown with todo := rest }
  | .join :: rest =>
      if alert.host.workers.all (· = .finished) then { alert.works .join with todo := rest } else alert

/-- A message that comes while the GUI thread is at none. -/
def handle : AlertMove width → AlertObserved × IncomingAlert width
  | .synchronize observed endpoint previewing refused =>
      alert.synchronize observed endpoint previewing refused
  | .acknowledge => (.nothing, alert.acknowledge)
  | .mute => (.nothing, alert.setMuted !alert.muted)
  | .prefer mute => (.nothing, alert.setMuted mute)
  | .preset => (.nothing, alert.works .stop)
  | .destroy => (.nothing, { alert.works .stop with todo := [.shutdown, .join] })
  | .gui | .worker _ _ => (.nothing, alert)

end IncomingAlert

def alertStep (alert : IncomingAlert width) :
    AlertMove width → AlertObserved × IncomingAlert width
  | .gui => (.nothing, alert.guiStep)
  | .worker index turn => (.nothing, alert.works (.worker index turn))
  | move => if alert.todo.isEmpty then alert.handle move else (.nothing, alert)

abbrev AlertStage (width : WCharWidth) :=
  Stage (IncomingAlert width) (AlertMove width) AlertObserved

/-- A player that is closed has no request. -/
def ClosedQuiet (host : RingtoneHost width) : Prop :=
  host.player.closed = true → host.player.state.request.active = false

theorem asked_of_active {request : IncomingRingtoneRequest width}
    (active : request.asked.active = true) : request.asked = request := by
  unfold IncomingRingtoneRequest.asked at active ⊢
  split at active
  · cases active
  · next valid => rw [if_neg valid]

/-- Behind `synchronize` the player has the request, or none. -/
theorem synchronize_request {host : RingtoneHost width} (quiet : ClosedQuiet host)
    {fault : SynchronizeFault} (uncopied : fault ≠ .copy) (input : IncomingRingtoneRequest width) :
    ClosedQuiet (host.synchronize fault input).2 ∧
      ((host.synchronize fault input).2.player.state.request.active = true →
        (host.synchronize fault input).2.player.state.request = input) := by
  unfold RingtoneHost.synchronize
  dsimp only
  split
  · next closed =>
      refine ⟨quiet, fun active => ?_⟩
      cases (quiet closed).symm.trans active
  next open_ =>
  split
  · next same =>
      refine ⟨quiet, fun active => ?_⟩
      rw [same] at active ⊢
      exact asked_of_active active
  split
  · exact ⟨fun _ => rfl, fun active => by cases active⟩
  have shut {claim : Prop} (closed : host.player.closed = true) : claim := absurd closed open_
  split
  · split
    · exact ⟨shut, fun active => by cases active⟩
    · exact ⟨shut, asked_of_active⟩
  · exact ⟨shut, asked_of_active⟩

/-- A turn of the worker leaves the request, and closes nothing. -/
theorem turn_request (player : IncomingRingtonePlayer width) (worker : RingtoneWorker width)
    (turn : RingtoneHost.Turn) :
    (RingtoneHost.turn player worker turn).1.state.request = player.state.request := by
  have looks (copied : Bool) : (RingtoneHost.look copied player).1.state.request =
      player.state.request := by
    unfold RingtoneHost.look
    split
    · rfl
    split
    · rfl
    split <;> rfl
  rw [RingtoneHost.turn.eq_def]
  split
  · exact looks _
  · exact looks _
  · rfl
  · unfold RingtoneHost.publish
    dsimp only
    split <;> rfl
  · rfl

/-- What is rendered was asked for a call. -/
def RendersCalls (host : RingtoneHost width) : Prop :=
  ∀ worker ∈ host.workers, ∀ render ∈ worker.render, render.2.active = true

theorem turn_renders {player : IncomingRingtonePlayer width} {worker : RingtoneWorker width}
    (before : ∀ render ∈ worker.render, render.2.active = true) (turn : RingtoneHost.Turn) :
    ∀ render ∈ (RingtoneHost.turn player worker turn).2.render, render.2.active = true := by
  have looks (copied : Bool) :
      ∀ render ∈ (RingtoneHost.look copied player).2.render, render.2.active = true := by
    intro render member
    unfold RingtoneHost.look at member
    split at member
    · cases member
    split at member
    · cases member
    next active =>
    split at member
    · cases member
    · cases member
      simpa using active
  rw [RingtoneHost.turn.eq_def]
  split
  · exact looks _
  · exact looks _
  · exact before
  · unfold RingtoneHost.publish
    dsimp only
    split
    · exact fun render member => by cases member
    · exact fun render member => by cases member
  · exact before

/-- The request is for the call that is shown, which rings and is neither muted nor silenced. -/
structure Rings (alert : IncomingAlert width) (request : IncomingRingtoneRequest width) : Prop where
  verified : verifiedIncomingCall alert.displayed = true
  call : (request.session, request.callId) = shownCall alert.displayed
  loud : alert.muted = false
  fresh : (alert.policy.silencedSession, alert.policy.silencedCall) ≠ shownCall alert.displayed
  device : validRingtoneEndpoint request.endpointId = true

structure Rightful (alert : IncomingAlert width) : Prop where
  kept : RingtoneKept alert.host
  quiet : ClosedQuiet alert.host
  renders : RendersCalls alert.host
  asked : alert.host.player.state.request.active = true →
    Rings alert alert.host.player.state.request
  shown : verifiedIncomingCall alert.displayed = true →
    alert.lastVisual = shownCall alert.displayed

theorem rings_of_request {alert : IncomingAlert width} {observed : SipRuntimeObservation}
    {endpoint : WString width} {previewing : Bool}
    (active : (alert.policy.request observed endpoint previewing alert.muted).active = true) :
    verifiedIncomingCall observed = true ∧ alert.muted = false ∧
      (alert.policy.silencedSession, alert.policy.silencedCall) ≠ shownCall observed ∧
        validRingtoneEndpoint endpoint = true ∧
          alert.policy.request observed endpoint previewing alert.muted =
            ⟨observed.session, observed.callId, endpoint⟩ := by
  unfold IncomingRingtonePolicy.request at active ⊢
  split at active
  · cases active
  · next rings =>
      rw [if_neg rings]
      simp only [Bool.or_eq_true, Bool.not_eq_true', Bool.and_eq_true, decide_eq_true_eq,
        not_or, Bool.not_eq_true, Bool.not_eq_false] at rings
      obtain ⟨⟨⟨⟨loud, -⟩, verified⟩, device⟩, fresh⟩ := rings
      refine ⟨verified, loud, fun same => fresh ?_, device, rfl⟩
      exact ⟨(congrArg Prod.fst same).symm, (congrArg Prod.snd same).symm⟩

theorem synchronize_renders {host : RingtoneHost width} (renders : RendersCalls host)
    (fault : SynchronizeFault) (input : IncomingRingtoneRequest width) :
    RendersCalls (host.synchronize fault input).2 := by
  rcases synchronize_workers host fault input with same | more
  · rw [RendersCalls, same]
    exact renders
  · rw [RendersCalls, more]
    refine List.forall_mem_append.mpr ⟨renders, List.forall_mem_singleton.mpr ?_⟩
    exact fun render member => by cases member

namespace Rightful

variable {alert : IncomingAlert width}

theorem initial : Rightful ({} : IncomingAlert width) :=
  ⟨ringtoneKept_initial, (fun closed => by cases closed), (fun worker member => by cases member),
    (fun active => by cases active), fun verified => by cases verified⟩

/-- The player of a host that has no request. -/
theorem silenced (rightful : Rightful alert) {host : RingtoneHost width} (kept : RingtoneKept host)
    (quiet : host.player.state.request.active = false) (renders : RendersCalls host)
    {after : IncomingAlert width} (same : after.host = host)
    (displayed : after.displayed = alert.displayed) (visual : after.lastVisual = alert.lastVisual) :
    Rightful after := by
  subst same
  refine ⟨kept, fun _ => quiet, renders, fun active => ?_, ?_⟩
  · cases quiet.symm.trans active
  · rw [displayed, visual]
    exact rightful.shown

theorem stop_quiet (rightful : Rightful alert) :
    alert.host.stop.player.state.request.active = false := by
  have none_ := (@synchronize_request _ _ rightful.quiet .none nofun {}).2
  by_contra active
  have active : alert.host.stop.player.state.request.active = true := by simpa using active
  rw [show alert.host.stop.player.state.request = {} from none_ active] at active
  cases active

/-- The player is stopped. -/
theorem stopped (rightful : Rightful alert) {after : IncomingAlert width}
    (same : after.host = alert.host.stop) (displayed : after.displayed = alert.displayed)
    (visual : after.lastVisual = alert.lastVisual) : Rightful after :=
  rightful.silenced (synchronize_kept rightful.kept .none {}) rightful.stop_quiet
    (synchronize_renders rightful.renders .none {}) same displayed visual

theorem synchronize (rightful : Rightful alert) (observed : SipRuntimeObservation)
    (endpoint : WString width) (previewing refused : Bool) :
    Rightful (alert.synchronize observed endpoint previewing refused).2 := by
  have uncopied : (if refused then SynchronizeFault.thread else .none) ≠ .copy := by
    split <;> exact nofun
  obtain ⟨quiet, asks⟩ := synchronize_request rightful.quiet uncopied
    (alert.policy.request observed endpoint previewing alert.muted)
  refine ⟨synchronize_kept rightful.kept _ _, quiet, synchronize_renders rightful.renders _ _,
    fun active => ?_, fun verified => ?_⟩
  · have same := asks active
    have active : (alert.policy.request observed endpoint previewing alert.muted).active = true :=
      same ▸ active
    obtain ⟨verified, loud, fresh, device, request⟩ := rings_of_request active
    rw [show (alert.synchronize observed endpoint previewing refused).2.host.player.state.request =
      ⟨observed.session, observed.callId, endpoint⟩ from same.trans request]
    exact ⟨verified, rfl, loud, fresh, device⟩
  · have verified : verifiedIncomingCall observed = true := verified
    simp only [IncomingAlert.synchronize, IncomingAlert.announces, verified, Bool.true_and]
    split
    · rfl
    · next same => simpa using same

theorem worker (rightful : Rightful alert) (index : ℕ) (turn : RingtoneHost.Turn) :
    Rightful (alert.works (.worker index turn)) := by
  have kept := ringtoneStep_kept rightful.kept (.worker index turn)
  cases found : alert.host.workers[index]? with
  | none =>
      have same : alert.works (.worker index turn) = alert := by
        simp only [IncomingAlert.works, ringtoneStep, found]
      rw [same]
      exact rightful
  | some worker =>
      have after : (alert.works (.worker index turn)).host = _ :=
        congrArg Prod.snd (@worker_turn _ _ _ _ turn found)
      have closed := (turn_turned alert.host.player worker turn).closed
      have request := turn_request alert.host.player worker turn
      refine ⟨kept, fun shut => ?_, ?_, fun active => ?_, rightful.shown⟩
      · rw [after] at shut ⊢
        dsimp only at shut ⊢
        rw [request]
        exact rightful.quiet (closed.symm.trans shut)
      · rw [after]
        intro other member
        rcases List.mem_or_eq_of_mem_set member with before | rfl
        · exact rightful.renders other before
        · exact turn_renders (rightful.renders worker (List.mem_of_getElem? found)) turn
      · have same : (alert.works (.worker index turn)).host.player.state.request =
            alert.host.player.state.request := by
          rw [after]
          exact request
        rw [same] at active ⊢
        obtain ⟨verified, call, loud, fresh, device⟩ := rightful.asked active
        exact ⟨verified, call, loud, fresh, device⟩

/-- Nothing that a ringtone depends on changes. -/
theorem framed (rightful : Rightful alert) {after : IncomingAlert width}
    (host : after.host = alert.host) (displayed : after.displayed = alert.displayed)
    (visual : after.lastVisual = alert.lastVisual) (policy : after.policy = alert.policy)
    (muted : after.muted = alert.muted) : Rightful after := by
  refine ⟨host ▸ rightful.kept, host ▸ rightful.quiet, host ▸ rightful.renders, ?_, ?_⟩
  · rw [host]
    intro active
    obtain ⟨verified, call, loud, fresh, device⟩ := rightful.asked active
    refine ⟨?_, ?_, muted.trans loud, ?_, device⟩
    · rw [displayed]
      exact verified
    · rw [displayed]
      exact call
    · rw [displayed, policy]
      exact fresh
  · rw [displayed, visual]
    exact rightful.shown

theorem setMuted (rightful : Rightful alert) (muted : Bool) : Rightful (alert.setMuted muted) := by
  cases muted with
  | true => exact rightful.stopped rfl rfl rfl
  | false =>
      refine ⟨rightful.kept, rightful.quiet, rightful.renders, fun active => ?_, rightful.shown⟩
      obtain ⟨verified, call, -, fresh, device⟩ := rightful.asked active
      exact ⟨verified, call, rfl, fresh, device⟩

theorem gui (rightful : Rightful alert) : Rightful alert.guiStep := by
  unfold IncomingAlert.guiStep
  split
  · exact rightful
  · exact rightful.framed rfl rfl rfl rfl rfl
  · refine rightful.silenced (ringtoneStep_kept rightful.kept .shutdown) rfl ?_ rfl rfl rfl
    exact rightful.renders
  · split
    · have same : (alert.works .join).host.player = alert.host.player ∧
          (alert.works .join).host.workers = alert.host.workers := by
        simp only [IncomingAlert.works, ringtoneStep, RingtoneHost.join]
        split <;> exact ⟨rfl, rfl⟩
      obtain ⟨player, workers⟩ := same
      refine ⟨ringtoneStep_kept rightful.kept .join, ?_, ?_, ?_, rightful.shown⟩
      · exact fun closed => by simpa [player] using rightful.quiet (player ▸ closed)
      · exact fun worker member => rightful.renders worker (workers ▸ member)
      · intro active
        change (alert.works .join).host.player.state.request.active = true at active
        change Rings _ (alert.works .join).host.player.state.request
        rw [player] at active ⊢
        obtain ⟨verified, call, loud, fresh, device⟩ := rightful.asked active
        exact ⟨verified, call, loud, fresh, device⟩
    · exact rightful

theorem handle (rightful : Rightful alert) (move : AlertMove width) :
    Rightful (alert.handle move).2 := by
  cases move with
  | synchronize observed endpoint previewing refused =>
      exact rightful.synchronize observed endpoint previewing refused
  | acknowledge => exact rightful.stopped rfl rfl rfl
  | mute => exact rightful.setMuted _
  | prefer mute => exact rightful.setMuted mute
  | preset => exact rightful.stopped rfl rfl rfl
  | destroy => exact rightful.stopped rfl rfl rfl
  | gui | worker => exact rightful

theorem step (rightful : Rightful alert) (move : AlertMove width) :
    Rightful (alertStep alert move).2 := by
  cases move with
  | gui => exact rightful.gui
  | worker index turn => exact rightful.worker index turn
  | synchronize | acknowledge | mute | prefer | preset | destroy =>
      simp only [alertStep]
      split
      · exact rightful.handle _
      · exact rightful

end Rightful

/-- A render that is not told to stop is for a call that may ring. -/
theorem Rightful.rings {alert : IncomingAlert width} (rightful : Rightful alert)
    {worker : RingtoneWorker width} (member : worker ∈ alert.host.workers)
    {render : UInt64 × IncomingRingtoneRequest width} (renders : render ∈ worker.render)
    (wanted : alert.host.player.cancel = false) : Rings alert render.2 := by
  rcases rightful.kept.alone with none_ | ⟨only, single, fits⟩
  · rw [none_] at member
    cases member
  · rw [single] at member
    rw [List.mem_singleton.mp member] at renders
    have active := rightful.renders only (by rw [single]; exact List.mem_cons_self) render renders
    have uncancelled (stale : render.1 ≠ alert.host.player.generation ∨
        alert.host.player.closed = true) : False := by
      cases wanted.symm.trans (fits.cancelled render renders stale)
    have current : render.1 = alert.host.player.generation :=
      Decidable.not_not.mp fun other => uncancelled (.inl other)
    have open_ : alert.host.player.closed = false :=
      Bool.eq_false_iff.mpr fun closed => uncancelled (.inr closed)
    have same := fits.current render renders current open_
    rw [← same]
    exact rightful.asked (same ▸ active)

/-! ## The order of the calls -/

/-- The call of what is shown, if it is a verified incoming one. -/
def shownIncoming : AlertMove width → Option (UInt64 × UInt64)
  | .synchronize observed _ _ _ =>
      if verifiedIncomingCall observed then some (shownCall observed) else none
  | _ => none

/-- What is shown never goes back to an earlier call. -/
def Rising (moves : List (AlertMove width)) : Prop :=
  (moves.filterMap shownIncoming).Pairwise fun earlier later => callKey earlier ≤ callKey later

def Forward (stage : AlertStage width) : Prop :=
  ∀ call ∈ shownIncoming stage.input, callKey stage.before.lastVisual ≤ callKey call

theorem guiStep_lastVisual (alert : IncomingAlert width) :
    alert.guiStep.lastVisual = alert.lastVisual := by
  unfold IncomingAlert.guiStep
  split
  · rfl
  · rfl
  · rfl
  · split <;> rfl

theorem setMuted_lastVisual (alert : IncomingAlert width) (muted : Bool) :
    (alert.setMuted muted).lastVisual = alert.lastVisual := by
  cases muted <;> rfl

def announcedCall (stage : AlertStage width) : Option (UInt64 × UInt64) :=
  match stage.output with
  | .announced call => some call
  | .nothing => none

/-- A call is announced when it is the first verified incoming one of its kind that is shown. -/
structure Announces (alert : IncomingAlert width) (move : AlertMove width) (call : UInt64 × UInt64) :
    Prop where
  shown : shownIncoming move = some call
  other : alert.lastVisual ≠ call
  visual : (alertStep alert move).2.lastVisual = call

theorem announced_cases (alert : IncomingAlert width) (move : AlertMove width) :
    announcedCall (stageOf alertStep alert move) = none ∧
        (alertStep alert move).2.lastVisual = alert.lastVisual ∨
      ∃ call, announcedCall (stageOf alertStep alert move) = some call ∧
        Announces alert move call := by
  cases move with
  | gui => exact .inl ⟨rfl, guiStep_lastVisual alert⟩
  | worker => exact .inl ⟨rfl, rfl⟩
  | synchronize observed endpoint previewing refused =>
      cases idle : alert.todo.isEmpty with
      | false => exact .inl (by simp [announcedCall, stageOf, alertStep, idle])
      | true =>
          cases announces : alert.announces observed with
          | false =>
              refine .inl ?_
              simp [announcedCall, stageOf, alertStep, idle, IncomingAlert.handle,
                IncomingAlert.synchronize, announces]
          | true =>
              refine .inr ⟨shownCall observed, ?_, ?_, ?_, ?_⟩
              · simp [announcedCall, stageOf, alertStep, idle, IncomingAlert.handle,
                  IncomingAlert.synchronize, announces]
              · rw [IncomingAlert.announces, Bool.and_eq_true] at announces
                exact if_pos announces.1
              · rw [IncomingAlert.announces, Bool.and_eq_true] at announces
                simpa using announces.2
              · simp [alertStep, idle, IncomingAlert.handle, IncomingAlert.synchronize, announces]
  | mute | prefer =>
      refine .inl ?_
      simp only [announcedCall, stageOf, alertStep]
      cases alert.todo.isEmpty with
      | false => exact ⟨rfl, rfl⟩
      | true => exact ⟨rfl, setMuted_lastVisual _ _⟩
  | acknowledge | preset | destroy =>
      refine .inl ?_
      simp only [announcedCall, stageOf, alertStep]
      cases alert.todo.isEmpty <;> exact ⟨rfl, rfl⟩

theorem lastVisual_rises {alert : IncomingAlert width} {move : AlertMove width}
    (forward : Forward (stageOf alertStep alert move)) :
    callKey alert.lastVisual ≤ callKey (alertStep alert move).2.lastVisual := by
  rcases announced_cases alert move with ⟨-, same⟩ | ⟨call, -, announces⟩
  · rw [same]
  · rw [announces.visual]
    exact forward call announces.shown

theorem forward_of_rising {moves : List (AlertMove width)} (rising : Rising moves)
    {alert : IncomingAlert width}
    (ahead : ∀ call ∈ moves.filterMap shownIncoming, callKey alert.lastVisual ≤ callKey call) :
    ∀ stage ∈ stages alertStep alert moves, Forward stage := by
  induction moves generalizing alert with
  | nil => exact fun stage member => by cases member
  | cons move rest ih =>
      have inside {call : UInt64 × UInt64} (shown : shownIncoming move = some call) :
          (move :: rest).filterMap shownIncoming = call :: rest.filterMap shownIncoming :=
        List.filterMap_cons_some shown
      have later : ∀ call ∈ rest.filterMap shownIncoming,
          call ∈ (move :: rest).filterMap shownIncoming := by
        intro call member
        obtain ⟨other, known, shown⟩ := List.mem_filterMap.mp member
        exact List.mem_filterMap.mpr ⟨other, .tail _ known, shown⟩
      have tail : Rising rest :=
        List.Pairwise.sublist ((List.sublist_cons_self move rest).filterMap _) rising
      rw [stages_cons]
      refine List.forall_mem_cons.mpr ⟨fun call shown => ?_, ih tail fun call member => ?_⟩
      · exact ahead call (by rw [inside shown]; exact List.mem_cons_self)
      · rcases announced_cases alert move with ⟨-, same⟩ | ⟨first, -, announces⟩
        · rw [same]
          exact ahead call (later call member)
        · rw [Rising, inside announces.shown, List.pairwise_cons] at rising
          rw [announces.visual]
          exact rising.1 call member

/-- The calls that were announced, in their order. -/
def announcedCalls (history : List (AlertStage width)) : List (UInt64 × UInt64) :=
  history.filterMap announcedCall

structure Announcing (history : List (AlertStage width)) (alert : IncomingAlert width) : Prop where
  rising : (announcedCalls history).Pairwise fun earlier later => callKey earlier < callKey later
  below : ∀ call ∈ announcedCalls history, callKey call ≤ callKey alert.lastVisual

theorem announcedCalls_concat (history : List (AlertStage width)) (stage : AlertStage width) :
    announcedCalls (history ++ [stage]) = announcedCalls history ++ (announcedCall stage).toList := by
  rw [announcedCalls, List.filterMap_append]
  cases known : announcedCall stage with
  | none => simp [announcedCalls, known]
  | some call => simp [announcedCalls, known]

theorem Announcing.step {history : List (AlertStage width)} {alert : IncomingAlert width}
    (announcing : Announcing history alert) {move : AlertMove width}
    (forward : Forward (stageOf alertStep alert move)) :
    Announcing (history ++ [stageOf alertStep alert move]) (alertStep alert move).2 := by
  have rises := lastVisual_rises forward
  rcases announced_cases alert move with ⟨announced, -⟩ | ⟨call, announced, announces⟩
  · have same : announcedCalls (history ++ [stageOf alertStep alert move]) =
        announcedCalls history := by
      rw [announcedCalls_concat, announced]
      exact List.append_nil _
    refine ⟨same ▸ announcing.rising, fun call member => ?_⟩
    exact le_trans (announcing.below call (same ▸ member)) rises
  · have above : callKey alert.lastVisual < callKey call :=
      lt_of_le_of_ne (forward call announces.shown) fun same => announces.other (callKey_injective same)
    have more : announcedCalls (history ++ [stageOf alertStep alert move]) =
        announcedCalls history ++ [call] := by
      rw [announcedCalls_concat, announced]
      rfl
    constructor
    · rw [more, List.pairwise_append]
      refine ⟨announcing.rising, List.pairwise_singleton _ _, fun earlier member later same => ?_⟩
      rw [List.mem_singleton.mp same]
      exact lt_of_le_of_lt (announcing.below earlier member) above
    · rw [more, announces.visual]
      refine forall_mem_concat (fun earlier member => ?_) (le_refl _)
      exact le_trans (announcing.below earlier member) (le_of_lt above)

/-- A verified incoming call that is shown has been announced. -/
structure Announced (history : List (AlertStage width)) (alert : IncomingAlert width) : Prop where
  rightful : Rightful alert
  visual : alert.lastVisual = (0, 0) ∨ alert.lastVisual ∈ announcedCalls history

theorem Announced.step {history : List (AlertStage width)} {alert : IncomingAlert width}
    (known : Announced history alert) (move : AlertMove width) :
    Announced (history ++ [stageOf alertStep alert move]) (alertStep alert move).2 := by
  refine ⟨known.rightful.step move, ?_⟩
  rw [announcedCalls_concat]
  rcases announced_cases alert move with ⟨-, same⟩ | ⟨call, announced, announces⟩
  · rw [same]
    exact known.visual.imp id (List.mem_append_left _)
  · rw [announced, announces.visual]
    exact .inr (List.mem_append_right _ List.mem_cons_self)

/-- The call was acknowledged, and is not shown as a new one any more. -/
def Acknowledged (call : UInt64 × UInt64) (alert : IncomingAlert width) : Prop :=
  (alert.policy.silencedSession, alert.policy.silencedCall) = call ∧
      callKey call ≤ callKey alert.lastVisual ∨ callKey call < callKey alert.lastVisual

theorem policy_step (alert : IncomingAlert width) (move : AlertMove width) :
    (alertStep alert move).2.policy = alert.policy ∨
      (alertStep alert move).2.policy = alert.policy.silence alert.displayed ∧
        (alertStep alert move).2.lastVisual = alert.lastVisual := by
  cases move with
  | gui =>
      refine .inl ?_
      simp only [alertStep, IncomingAlert.guiStep]
      split
      · rfl
      · rfl
      · rfl
      · split <;> rfl
  | worker => exact .inl rfl
  | acknowledge =>
      simp only [alertStep]
      split
      · exact .inr ⟨rfl, rfl⟩
      · exact .inl rfl
  | mute | prefer =>
      refine .inl ?_
      simp only [alertStep]
      split
      · simp only [IncomingAlert.handle, IncomingAlert.setMuted]
        split <;> rfl
      · rfl
  | synchronize | preset | destroy =>
      refine .inl ?_
      simp only [alertStep]
      split <;> rfl

theorem Acknowledged.step {call : UInt64 × UInt64} {alert : IncomingAlert width}
    (acknowledged : Acknowledged call alert) (rightful : Rightful alert) {move : AlertMove width}
    (forward : Forward (stageOf alertStep alert move)) :
    Acknowledged call (alertStep alert move).2 := by
  have rises := lastVisual_rises forward
  rcases acknowledged with ⟨silenced, reached⟩ | behind
  · rcases policy_step alert move with same | ⟨silences, visual⟩
    · exact .inl ⟨by rw [same]; exact silenced, le_trans reached rises⟩
    · rw [Acknowledged, silences, visual, IncomingRingtonePolicy.silence]
      split
      · next verified =>
          have shown : alert.lastVisual = shownCall alert.displayed := rightful.shown verified
          rcases eq_or_lt_of_le reached with same | behind
          · have here : (alert.displayed.session, alert.displayed.callId) = call :=
              shown.symm.trans (callKey_injective same).symm
            exact .inl ⟨here, reached⟩
          · exact .inr behind
      · exact .inl ⟨silenced, reached⟩
  · exact .inr (lt_of_lt_of_le behind rises)

theorem Acknowledged.silent {call : UInt64 × UInt64} {alert : IncomingAlert width}
    (acknowledged : Acknowledged call alert) (rightful : Rightful alert)
    {request : IncomingRingtoneRequest width} (rings : Rings alert request) :
    (request.session, request.callId) ≠ call := by
  rintro rfl
  have shown := rightful.shown rings.verified
  rw [← rings.call] at shown
  rcases acknowledged with ⟨silenced, -⟩ | behind
  · exact rings.fresh (silenced.trans rings.call)
  · rw [shown] at behind
    exact lt_irrefl _ behind

theorem announced_run (moves : List (AlertMove width)) :
    Announced (stages alertStep {} moves) (finalState alertStep {} moves) := by
  have known := @history_invariant _ _ _ (@alertStep width) Announced (fun _ => True)
    (fun _ _ move known _ => known.step move) [] {} ⟨.initial, .inl rfl⟩ moves fun _ _ => trivial
  rwa [List.nil_append] at known

/-- What the alert keeps to, whatever is observed. -/
structure AlertKept (moves : List (AlertMove width)) : Prop where
  /-- A ringtone that is not told to stop is that of the call that is shown. -/
  rings : ∀ worker ∈ (finalState alertStep {} moves).host.workers, ∀ render ∈ worker.render,
    (finalState alertStep {} moves).host.player.cancel = false →
      Rings (finalState alertStep {} moves) render.2
  /-- A verified incoming call that is shown has been announced. -/
  announced : verifiedIncomingCall (finalState alertStep {} moves).displayed = true →
    shownCall (finalState alertStep {} moves).displayed ∈ announcedCalls (stages alertStep {} moves)

theorem alert_kept (moves : List (AlertMove width)) : AlertKept moves := by
  obtain ⟨rightful, visual⟩ := announced_run moves
  refine ⟨fun worker member render renders wanted => rightful.rings member renders wanted, ?_⟩
  intro verified
  have shown := rightful.shown verified
  rw [shown] at visual
  refine visual.resolve_left fun none_ => ?_
  rw [verifiedIncomingCall, Bool.and_eq_true, Bool.and_eq_true] at verified
  have call := verified.1.1
  rw [show (finalState alertStep {} moves).displayed.callId = 0 from congrArg Prod.snd none_] at call
  cases call

/-- What the alert keeps to of calls that are shown in their order. -/
structure AlertedOnce (moves : List (AlertMove width)) : Prop where
  once : (announcedCalls (stages alertStep {} moves)).Nodup
  /-- A call that was acknowledged never rings again. -/
  silent : ∀ {before ack after}, stages alertStep {} moves = before ++ ack :: after →
    ack.input = .acknowledge → ack.before.todo = [] →
    verifiedIncomingCall ack.before.displayed = true →
      ∀ stage ∈ ack :: after, ∀ worker ∈ stage.after.host.workers, ∀ render ∈ worker.render,
        stage.after.host.player.cancel = false →
          (render.2.session, render.2.callId) ≠ shownCall ack.before.displayed

theorem calls_alerted_once {moves : List (AlertMove width)} (rising : Rising moves) :
    AlertedOnce moves := by
  have least (call : UInt64 × UInt64) : callKey (0, 0) ≤ callKey call :=
    Prod.Lex.toLex_le_toLex.mpr <| (Nat.eq_zero_or_pos call.1.toNat).symm.imp id
      fun none_ => ⟨none_.symm, Nat.zero_le _⟩
  have forward := @forward_of_rising _ moves rising {} fun call _ => least call
  constructor
  · have known := @history_invariant _ _ _ (@alertStep width) Announcing Forward
      (fun _ _ _ known forward => known.step forward) [] {} ⟨.nil, fun call member => by cases member⟩
      moves forward
    rw [List.nil_append] at known
    exact known.rising.imp fun below same => by
      rw [same] at below
      exact lt_irrefl _ below
  · intro before ack after split input idle verified
    have ahead : ∀ stage ∈ after, Forward stage := by
      intro stage member
      refine forward stage ?_
      rw [split]
      exact List.mem_append_right _ (.tail _ member)
    obtain ⟨first, move, rest, rfl, rfl, rfl, rfl⟩ := stages_split split
    have rightful := (announced_run first).rightful
    generalize finalState alertStep {} first = alert at *
    cases input
    have idle : alert.todo = [] := idle
    have shown : alert.lastVisual = shownCall alert.displayed := rightful.shown verified
    have acknowledged : Acknowledged (shownCall alert.displayed)
        (alertStep alert .acknowledge).2 := by
      refine .inl ⟨?_, ?_⟩
      · have verified : verifiedIncomingCall alert.displayed = true := verified
        simp [alertStep, idle, IncomingAlert.handle, IncomingAlert.acknowledge,
          IncomingRingtonePolicy.silence, verified, shownCall]
      · have visual : (alertStep alert .acknowledge).2.lastVisual = alert.lastVisual := by
          simp [alertStep, idle, IncomingAlert.handle, IncomingAlert.acknowledge, IncomingAlert.works]
        rw [visual, shown]
    have later := stages_forall_of_admitted
      (fun alert' => Acknowledged (shownCall alert.displayed) alert' ∧ Rightful alert') Forward
      (fun stage => Acknowledged (shownCall alert.displayed) stage.after ∧ Rightful stage.after)
      (fun _ move known forward => ⟨known.1.step known.2 forward, known.2.step move⟩)
      (fun _ move known forward => ⟨known.1.step known.2 forward, known.2.step move⟩)
      ⟨acknowledged, rightful.step .acknowledge⟩ ahead
    intro stage member worker inside render renders wanted
    have known : Acknowledged (shownCall alert.displayed) stage.after ∧ Rightful stage.after := by
      rcases List.mem_cons.mp member with rfl | behind
      · exact ⟨acknowledged, rightful.step .acknowledge⟩
      · exact later stage behind
    exact known.1.silent known.2 (known.2.rings inside renders wanted)

def ringingCall (call : UInt64) : SipRuntimeObservation :=
  ⟨.running, .ringing, .verifiedNativeApi, 1, call, call⟩

/-- A call rings and is acknowledged, and another one rings. -/
def acknowledgedThenNext : List (AlertMove .utf16) :=
  [.synchronize (ringingCall 1) [] false false, .gui, .worker 0 (.look true), .acknowledge,
    .synchronize (ringingCall 1) [] false false, .gui,
    .synchronize (ringingCall 2) [] false false]

theorem acknowledgedThenNext_alerted :
    Rising acknowledgedThenNext ∧ AlertedOnce acknowledgedThenNext := by
  have rising : Rising acknowledgedThenNext := by
    have shown : acknowledgedThenNext.filterMap shownIncoming = [(1, 1), (1, 1), (1, 2)] := by
      decide +kernel
    rw [Rising, shown]
    simp [callKey, Prod.Lex.toLex_le_toLex]
  exact ⟨rising, calls_alerted_once rising⟩

end AxeVoice.Audio
