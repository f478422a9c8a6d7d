import AxeVoice.Cti.ServerQueue
import AxeVoice.Desktop.Dialing
import AxeVoice.Native.CallOperations

/-!
# What becomes of the requests of the local server

The interface serves one request at a time, from `take()` to `complete()`, and
submits one dial for it at most.  The request is reported as submitted exactly if
the engine has accepted the dial; the owner of the engine carries each accepted
dial out once at most.  So a request is dialed once at most, and one that was
cancelled never.
-/

namespace AxeVoice.Desktop

open Command Cti Foundation Native Sip

variable {width : WCharWidth} {ctype : WideCtype width}

/-- What the interface asks of the server. -/
def guiCall : DeskPoint width → Option GuiCall
  | .publishing _ _ ready => some (.setReady ready)
  | .rejecting .. => some (.setReady false)
  | .taking => some .take
  | .completing id submitted => some (.complete id submitted)
  | _ => none

def serverAsked (desktop : VoiceDesktop width) : DeskMove width → Option (Cti.Move width)
  | .worker request => some (.worker request)
  | .gui => (guiCall desktop.point).map .gui
  | .owner _ | .message _ => none

/-- What the interface asks of the engine while it dials. -/
def dialCall (ctype : WideCtype width) (desktop : VoiceDesktop width) : Option (CallMove width) :=
  match desktop.point with
  | .recording _ _ _ destination =>
      some (.ui (.recorded
        (nativeCallDestinationResult ctype destination desktop.calls.engine.account).error))
  | .submitting _ _ _ uri => some (.submit { action := .dial, uri := uri })
  | _ => none

def callsAsked (ctype : WideCtype width) (desktop : VoiceDesktop width) :
    DeskMove width → Option (CallMove width)
  | .owner move => if ofOwner move then some move else none
  | .message (.call move) =>
      match desktop.point with
      | .idle => if besideDials move then some move else none
      | _ => none
  | .gui => dialCall ctype desktop
  | .worker _ | .message _ => none

@[simp] theorem dialed_server (desktop : VoiceDesktop width) (submitted : Bool)
    (source : DialSource) : (desktop.dialed submitted source).server = desktop.server := by
  cases source <;> rfl

@[simp] theorem dialed_calls (desktop : VoiceDesktop width) (submitted : Bool)
    (source : DialSource) : (desktop.dialed submitted source).calls = desktop.calls := by
  cases source <;> rfl

namespace VoiceDesktop

variable (desktop : VoiceDesktop width)

/-- The parts of the interface's state that its messages change. -/
theorem handle_keeps (message : DeskMessage width) (own : ∀ move, message ≠ .call move) :
    (desktop.handle ctype message).2.server = desktop.server ∧
      (desktop.handle ctype message).2.calls = desktop.calls := by
  cases message with
  | call move => exact absurd rfl (own move)
  | copyData uri posted =>
      simp only [handle, copyData]
      split <;> exact ⟨rfl, rfl⟩
  | externalClick =>
      simp only [handle, externalClick]
      split
      · exact ⟨rfl, rfl⟩
      · split <;> exact ⟨rfl, rfl⟩
  | answer yes =>
      simp only [handle, answer]
      split <;> exact ⟨rfl, rfl⟩
  | timer | refresh | asyncCti | callButton | edit | shutdown => exact ⟨rfl, rfl⟩

theorem guiStep_server :
    (desktop.guiStep ctype).2.server = match guiCall desktop.point with
      | some call => (desktop.serverCall call).2
      | none => desktop.server := by
  cases point : desktop.point with
  | publishing timer observed ready =>
      simp only [guiStep, point, guiCall]
      split <;> rfl
  | rejecting timer observed =>
      simp only [guiStep, point, guiCall]
      rfl
  | idle | refreshing | judging | taking | taken | dialing | completing | linking =>
      simp only [guiStep, point, guiCall]
  | granting | authorizing | rechecking | recording | submitting | asking =>
      simp only [guiStep, point, guiCall]
      split <;> simp

theorem guiStep_calls :
    (desktop.guiStep ctype).2.calls = match dialCall ctype desktop with
      | some move => (callStep ctype desktop.calls move).2
      | none => desktop.calls := by
  cases point : desktop.point with
  | publishing timer observed ready =>
      simp only [guiStep, point, dialCall]
      split <;> rfl
  | rejecting timer observed =>
      simp only [guiStep, point, dialCall]
      rfl
  | idle | refreshing | judging | taking | taken | dialing | completing | linking =>
      simp only [guiStep, point, dialCall]
  | granting | authorizing | rechecking | recording | submitting | asking =>
      simp only [guiStep, point, dialCall]
      split <;> simp

/-- What a step of the interface shows: its step of the server, of the engine, or nothing. -/
inductive GuiShows (ctype : WideCtype width) (desktop : VoiceDesktop width) :
    DeskObserved width → Prop
  | server {call : GuiCall} (asks : guiCall desktop.point = some call)
      (rests : dialCall ctype desktop = none) :
      GuiShows ctype desktop (.server (desktop.serverCall call).1)
  | calls {move : CallMove width} (asks : dialCall ctype desktop = some move)
      (rests : guiCall desktop.point = none) :
      GuiShows ctype desktop (.calls (callStep ctype desktop.calls move).1)
  | nothing (rests : guiCall desktop.point = none) (still : dialCall ctype desktop = none) :
      GuiShows ctype desktop .nothing

theorem guiStep_shows (ctype : WideCtype width) : GuiShows ctype desktop (desktop.guiStep ctype).1 := by
  cases point : desktop.point with
  | publishing | rejecting | taking | completing =>
      simp only [guiStep, point]
      exact .server (by rw [point]; rfl) (by rw [dialCall, point])
  | recording | submitting =>
      simp only [guiStep, point]
      exact .calls (by rw [dialCall, point]) (by rw [point]; rfl)
  | idle | refreshing | judging | taken | granting | dialing | authorizing | rechecking | linking
  | asking =>
      simp only [guiStep, point]
      exact .nothing (by rw [point]; rfl) (by rw [dialCall, point])

end VoiceDesktop

/-- The server, whose steps the worker and the interface take. -/
def serverPart (ctype : WideCtype width) : Component (deskStep ctype) (@serverStep width) where
  part := VoiceDesktop.server
  asked := serverAsked
  moves {desktop move request} asked := by
    cases move with
    | worker posted =>
        cases asked
        rfl
    | gui =>
        obtain ⟨call, known, rfl⟩ := Option.map_eq_some_iff.mp asked
        exact desktop.guiStep_server.trans (by rw [known]; rfl)
    | owner | message => cases asked
  rests {desktop move} asked := by
    cases move with
    | worker posted => cases asked
    | gui =>
        have none_ : guiCall desktop.point = none := by simpa [serverAsked] using asked
        exact desktop.guiStep_server.trans (by rw [none_])
    | owner move =>
        simp only [deskStep]
        split <;> rfl
    | message message =>
        simp only [deskStep]
        split
        · cases message with
          | call move =>
              simp only [VoiceDesktop.handle]
              split <;> rfl
          | _ => exact (desktop.handle_keeps _ (by intro move same; cases same)).1
        · rfl

/-- The engine, whose steps its owner and the interface take. -/
def callsPart (ctype : WideCtype width) : Component (deskStep ctype) (@callStep width ctype) where
  part := VoiceDesktop.calls
  asked := callsAsked ctype
  moves {desktop move request} asked := by
    cases move with
    | worker posted => cases asked
    | gui =>
        have known : dialCall ctype desktop = some request := asked
        exact desktop.guiStep_calls.trans (by rw [known])
    | owner move =>
        simp only [callsAsked] at asked
        split at asked
        · next own =>
            cases asked
            simp only [deskStep, own]
            rfl
        · cases asked
    | message message =>
        cases message with
        | call move =>
            simp only [callsAsked] at asked
            split at asked
            · next point =>
                split at asked
                · next own =>
                    cases asked
                    simp only [deskStep, point, VoiceDesktop.handle, own]
                    rfl
                · cases asked
            · cases asked
        | _ => cases asked
  rests {desktop move} asked := by
    cases move with
    | worker posted => rfl
    | gui =>
        have known : dialCall ctype desktop = none := asked
        exact desktop.guiStep_calls.trans (by rw [known])
    | owner move =>
        simp only [callsAsked] at asked
        split at asked
        · cases asked
        · next other =>
            simp only [deskStep, other]
            rfl
    | message message =>
        cases message with
        | call move =>
            simp only [callsAsked] at asked
            simp only [deskStep]
            split
            · next point =>
                simp only [point] at asked
                split at asked
                · cases asked
                · next other =>
                    simp only [VoiceDesktop.handle, other]
                    rfl
            · rfl
        | _ =>
            simp only [deskStep]
            split
            · exact (desktop.handle_keeps _ (by intro move same; cases same)).2
            · rfl

/-- A step of the desktop, for the queue of the server. -/
theorem queue_step (sound : ServerSound desktop.server) (ctype : WideCtype width)
    (move : DeskMove width) :
    (deskStep ctype desktop move).2.server.requests = desktop.server.requests ∨
      ∃ turn operation, serverAsked desktop move = some turn ∧
        desktop.server.operation turn = some operation ∧
          Operated desktop.server.requests operation
            (queueStep desktop.server.requests operation).1
              (deskStep ctype desktop move).2.server.requests := by
  cases asked : serverAsked desktop move with
  | none => exact .inl (congrArg LocalCtiServer.requests ((serverPart ctype).rests asked))
  | some turn =>
      have moved : (deskStep ctype desktop move).2.server = (serverStep desktop.server turn).2 :=
        (serverPart ctype).moves asked
      rw [moved]
      rcases serverStep_operated desktop.server sound turn with ⟨-, same⟩ | ⟨operation, known, done⟩
      · exact .inl same
      · exact .inr ⟨turn, operation, rfl, known, done⟩

/-- A step that shows something of the server is a step of the server. -/
theorem deskStep_server {desktop : VoiceDesktop width} {move : DeskMove width}
    {shown : Observed width} (output : (deskStep ctype desktop move).1 = .server shown) :
    ∃ request, serverAsked desktop move = some request ∧
      (serverStep desktop.server request).1 = shown := by
  cases move with
  | worker request =>
      cases output
      exact ⟨_, rfl, rfl⟩
  | gui =>
      have shows := desktop.guiStep_shows ctype
      rw [show (desktop.guiStep ctype).1 = .server shown from output] at shows
      cases shows with
      | server asks => exact ⟨_, by rw [serverAsked, asks]; rfl, rfl⟩
  | owner move =>
      simp only [deskStep] at output
      split at output <;> cases output
  | message message =>
      simp only [deskStep] at output
      split at output
      · cases message with
        | call move =>
            simp only [VoiceDesktop.handle] at output
            split at output <;> cases output
        | _ => cases output
      · cases output

/-- A step that shows something of the engine is a step of the engine. -/
theorem deskStep_calls {desktop : VoiceDesktop width} {move : DeskMove width}
    {shown : CallObserved} (output : (deskStep ctype desktop move).1 = .calls shown) :
    ∃ request, callsAsked ctype desktop move = some request := by
  cases move with
  | worker request => cases output
  | gui =>
      have shows := desktop.guiStep_shows ctype
      rw [show (desktop.guiStep ctype).1 = .calls shown from output] at shows
      cases shows with
      | calls asks => exact ⟨_, asks⟩
  | owner move =>
      simp only [deskStep] at output
      split at output
      · cases output
      · next own =>
          refine ⟨move, ?_⟩
          rw [callsAsked, if_pos (by simpa using own)]
  | message message =>
      simp only [deskStep] at output
      split at output
      · next point =>
          cases message with
          | call move =>
              simp only [VoiceDesktop.handle] at output
              split at output
              · cases output
              · next own =>
                  refine ⟨move, ?_⟩
                  simp only [callsAsked, point]
                  rw [if_pos (by simpa using own)]
          | _ => cases output
      · cases output

/-- A step of the engine shows what the engine shows. -/
theorem deskStep_calls_of_asked {desktop : VoiceDesktop width} {move : DeskMove width}
    {request : CallMove width} (asked : callsAsked ctype desktop move = some request) :
    (deskStep ctype desktop move).1 = .calls (callStep ctype desktop.calls request).1 := by
  cases move with
  | worker posted => cases asked
  | gui =>
      have shows := desktop.guiStep_shows ctype
      have known : dialCall ctype desktop = some request := asked
      change (desktop.guiStep ctype).1 = _
      generalize (desktop.guiStep ctype).1 = output at shows
      cases shows with
      | server asks rests => cases known.symm.trans rests
      | calls asks =>
          cases known.symm.trans asks
          rfl
      | nothing rests still => cases known.symm.trans still
  | owner move =>
      simp only [callsAsked] at asked
      split at asked
      · next own =>
          cases asked
          simp only [deskStep, own]
          rfl
      · cases asked
  | message message =>
      cases message with
      | call move =>
          simp only [callsAsked] at asked
          split at asked
          · next point =>
              split at asked
              · next own =>
                  cases asked
                  simp only [deskStep, point, VoiceDesktop.handle, own]
                  rfl
              · cases asked
          · cases asked
      | _ => cases asked

/-! ## The request that is served -/

/-- The interface is inside a call of the server. -/
def DeskPoint.atServer : DeskPoint width → Bool
  | .rejecting .. | .taking => true
  | _ => false

def DialSource.requestId : DialSource → Option UInt64
  | .button => none
  | .request id => some id

/-- The request that the interface serves. -/
def DeskPoint.serving : DeskPoint width → Option UInt64
  | .taken request | .granting request _ => some request.id
  | .dialing source _ | .authorizing source _ _ | .rechecking source _ _ _
  | .recording source _ _ _ | .submitting source _ _ _ => source.requestId
  | .completing id _ => some id
  | _ => none

/-- The request that the interface serves is the active one of the queue. -/
structure Attended (desktop : VoiceDesktop width) : Prop where
  sound : ServerSound desktop.server
  resting : desktop.point.atServer = false → desktop.server.gui = .idle
  stored : ∀ timer observed, desktop.point = .rejecting timer observed →
    desktop.server.gui = .readinessStored
  serving : ∀ id, desktop.point.serving = some id →
    ∃ request, desktop.server.requests.active = some request ∧ request.id = id

theorem attended_initial (ctype : WideCtype width) (link : Option (WString width)) :
    Attended (VoiceDesktop.launched ctype link) :=
  ⟨serverSound_initial, fun _ => rfl, (fun _ _ same => by cases same),
    (fun _ same => by cases same)⟩

namespace Attended

variable {desktop after : VoiceDesktop width}

/-- The interface moves on without the server. -/
theorem onward (attended : Attended desktop) (outside : desktop.point.atServer = false)
    (server : after.server = desktop.server)
    (stored : ∀ timer observed, after.point ≠ .rejecting timer observed)
    (serving : ∀ id, after.point.serving = some id → desktop.point.serving = some id) :
    Attended after := by
  refine ⟨server ▸ attended.sound, fun _ => ?_, fun timer observed same => ?_, fun id serves => ?_⟩
  · rw [server]
    exact attended.resting outside
  · exact absurd same (stored timer observed)
  · rw [server]
    exact attended.serving id (serving id serves)

theorem dialed (attended : Attended desktop) (outside : desktop.point.atServer = false)
    (server : after.server = desktop.server) {source : DialSource}
    (serves : desktop.point.serving = source.requestId) (submitted : Bool) :
    Attended (after.dialed submitted source) := by
  cases source with
  | button =>
      refine attended.onward outside server (fun _ _ same => by cases same) fun id same => ?_
      cases same
  | request id =>
      refine attended.onward outside server (fun _ _ same => by cases same) fun other same => ?_
      rw [serves]
      exact same

/-- The interface leaves the server behind a step that ends its call. -/
theorem left {server : LocalCtiServer width} (sound : ServerSound server)
    (idle : server.gui = .idle) (same : after.server = server)
    (stored : ∀ timer observed, after.point ≠ .rejecting timer observed)
    (serving : ∀ id, after.point.serving = some id →
      ∃ request, server.requests.active = some request ∧ request.id = id) :
    Attended after :=
  ⟨same ▸ sound, fun _ => same ▸ idle, fun timer observed other =>
    absurd other (stored timer observed), fun id serves => same ▸ serving id serves⟩

end Attended

/-- A call of the server that ends leaves the interface between calls. -/
theorem guiStep_ended {server : LocalCtiServer width} (sound : ServerSound server)
    {call : GuiCall} {request : Option (CtiPendingRequest width)}
    (shown : (server.guiStep call).1 = .taken request) :
    (server.guiStep call).2.gui = .idle ∧
      ∀ taken, request = some taken → (server.guiStep call).2.requests.active = some taken := by
  have stepped := guiStep_stepped sound call
  rw [shown] at stepped
  generalize (server.guiStep call).2 = after at stepped ⊢
  cases stepped with
  | rejected rejecting advanced emptied observed kind =>
      refine ⟨rfl, fun taken same => ?_⟩
      subst same
      rcases kind with kind | kind <;> cases kind
  | nothing => exact ⟨rfl, fun taken same => by cases same⟩
  | returned holding =>
      refine ⟨rfl, fun taken same => ?_⟩
      cases same
      exact (sound.holding _ holding).2

namespace Attended

variable {desktop : VoiceDesktop width}

/-- A call of the server leaves it sound. -/
theorem serverCall_sound (attended : Attended desktop) (call : GuiCall) :
    ServerSound (desktop.serverCall call).2 :=
  serverStep_sound desktop.server (.gui call) attended.sound

/-- `set_ready` stores the flag, and goes on where it has stored a loss. -/
theorem publishes (attended : Attended desktop) (ctype : WideCtype width) {timer ready : Bool}
    {observed : SipRuntimeObservation} (point : desktop.point = .publishing timer observed ready) :
    Attended (desktop.guiStep ctype).2 := by
  have idle : desktop.server.gui = .idle := attended.resting (by rw [point]; rfl)
  simp only [VoiceDesktop.guiStep, point]
  have stored := attended.serverCall_sound (.setReady ready)
  simp only [VoiceDesktop.serverCall, serverStep, LocalCtiServer.guiStep, idle,
    LocalCtiServer.guiBegin] at stored ⊢
  cases ready with
  | true =>
      cases timer
      · exact .left stored rfl rfl (fun _ _ same => by cases same) fun _ same => by cases same
      · exact .left stored rfl rfl (fun _ _ same => by cases same) fun _ same => by cases same
  | false =>
      exact ⟨stored, (fun away => by cases away), (fun _ _ _ => rfl), fun _ same => by cases same⟩

/-- The rest of a `set_ready` that has stored a loss. -/
theorem rejects (attended : Attended desktop) (ctype : WideCtype width) {timer : Bool}
    {observed : SipRuntimeObservation} (point : desktop.point = .rejecting timer observed) :
    Attended (desktop.guiStep ctype).2 := by
  have stored := attended.stored timer observed point
  simp only [VoiceDesktop.guiStep, point]
  have rejected := attended.serverCall_sound (.setReady false)
  simp only [VoiceDesktop.serverCall, serverStep, LocalCtiServer.guiStep, stored] at rejected ⊢
  cases timer
  · exact .left rejected rfl rfl (fun _ _ same => by cases same) fun _ same => by cases same
  · exact .left rejected rfl rfl (fun _ _ same => by cases same) fun _ same => by cases same

/-- `take()` hands the active request out, or goes on. -/
theorem takes (attended : Attended desktop) (ctype : WideCtype width)
    (point : desktop.point = .taking) : Attended (desktop.guiStep ctype).2 := by
  simp only [VoiceDesktop.guiStep, point]
  have took := attended.serverCall_sound .take
  have ended {request : Option (CtiPendingRequest width)}
      (shown : (desktop.server.guiStep .take).1 = .taken request) :=
    guiStep_ended attended.sound shown
  simp only [VoiceDesktop.serverCall, serverStep] at took ⊢
  split
  · next request shown =>
      obtain ⟨idle, active⟩ := ended shown
      refine .left took idle rfl (fun _ _ same => by cases same) fun id same => ?_
      cases same
      exact ⟨request, active request rfl, rfl⟩
  · next shown =>
      exact .left took (ended shown).1 rfl (fun _ _ same => by cases same)
        fun _ same => by cases same
  · exact ⟨took, (fun away => by cases away), (fun _ _ same => by cases same),
      fun _ same => by cases same⟩

theorem completes (attended : Attended desktop) (ctype : WideCtype width) {id : UInt64}
    {submitted : Bool} (point : desktop.point = .completing id submitted) :
    Attended (desktop.guiStep ctype).2 := by
  have idle : desktop.server.gui = .idle := attended.resting (by rw [point]; rfl)
  simp only [VoiceDesktop.guiStep, point]
  have completed := attended.serverCall_sound (.complete id submitted)
  simp only [VoiceDesktop.serverCall, serverStep, LocalCtiServer.guiStep, idle,
    LocalCtiServer.guiBegin] at completed ⊢
  exact .left completed rfl rfl (fun _ _ same => by cases same) fun _ same => by cases same

end Attended

theorem Attended.guiStep {desktop : VoiceDesktop width} (attended : Attended desktop)
    (ctype : WideCtype width) : Attended (desktop.guiStep ctype).2 := by
  cases point : desktop.point with
  | idle =>
      simp only [VoiceDesktop.guiStep, point]
      exact attended
  | refreshing | judging | linking =>
      simp only [VoiceDesktop.guiStep, point]
      exact attended.onward (by rw [point]; rfl) rfl (fun _ _ same => by cases same)
        fun _ same => by cases same
  | taken | dialing =>
      simp only [VoiceDesktop.guiStep, point]
      exact attended.onward (by rw [point]; rfl) rfl (fun _ _ same => by cases same)
        fun _ same => by rw [point]; exact same
  | granting | authorizing | rechecking =>
      simp only [VoiceDesktop.guiStep, point]
      split
      · exact attended.dialed (by rw [point]; rfl) (by rfl) (by rw [point]; rfl) _
      · exact attended.onward (by rw [point]; rfl) rfl (fun _ _ same => by cases same)
          fun _ same => by rw [point]; exact same
  | recording source typed observed destination =>
      simp only [VoiceDesktop.guiStep, point]
      split
      · exact attended.onward (by rw [point]; rfl) rfl (fun _ _ same => by cases same)
          fun _ same => by rw [point]; exact same
      · exact attended.dialed (by rw [point]; rfl) (by rfl) (by rw [point]; rfl) _
  | submitting source typed observed uri =>
      simp only [VoiceDesktop.guiStep, point]
      split
      · exact attended.dialed (by rw [point]; rfl) (by rfl) (by rw [point]; rfl) _
      · exact attended.dialed (by rw [point]; rfl) (by rfl) (by rw [point]; rfl) _
  | asking =>
      simp only [VoiceDesktop.guiStep, point]
      split
      · exact attended.onward (by rw [point]; rfl) rfl (fun _ _ same => by cases same)
          fun _ same => by cases same
      · exact attended.onward (by rw [point]; rfl) rfl (fun _ _ same => by cases same)
          fun _ same => by cases same
  | publishing timer observed ready => exact attended.publishes ctype point
  | rejecting timer observed => exact attended.rejects ctype point
  | taking => exact attended.takes ctype point
  | completing id submitted => exact attended.completes ctype point

/-- Where a message leads the interface. -/
inductive Begins (desktop : VoiceDesktop width) : DeskPoint width → Prop
  | stays : Begins desktop .idle
  | refreshes (timer : Bool) : Begins desktop (.refreshing timer)
  | takes : Begins desktop .taking
  | dials : Begins desktop (.dialing .button (desktop.number.take 255))
  | links (destination : WString width) : Begins desktop (.linking destination)

theorem Begins.serving {desktop : VoiceDesktop width} {point : DeskPoint width}
    (begins : Begins desktop point) :
    point.serving = none ∧ ∀ timer observed, point ≠ .rejecting timer observed := by
  cases begins <;> exact ⟨rfl, fun _ _ same => by cases same⟩

namespace VoiceDesktop

variable (desktop : VoiceDesktop width)

theorem handle_begins (idle : desktop.point = .idle) (ctype : WideCtype width)
    (message : DeskMessage width) : Begins desktop (desktop.handle ctype message).2.point := by
  have rests : Begins desktop desktop.point := idle ▸ .stays
  cases message with
  | timer => exact .refreshes true
  | refresh => exact .refreshes false
  | callButton => exact .dials
  | edit | shutdown => exact rests
  | asyncCti =>
      simp only [handle]
      split
      · exact .stays
      · exact .takes
  | copyData uri posted =>
      simp only [handle, copyData]
      split
      · exact rests
      · exact rests
  | externalClick =>
      simp only [handle, externalClick]
      split
      · exact rests
      · split
        · exact rests
        · exact .links _
  | answer yes =>
      simp only [handle, answer]
      split
      · exact rests
      · cases yes
        · exact .stays
        · exact .dials
  | call move =>
      simp only [handle]
      split
      · exact rests
      · exact rests

theorem handle_server (ctype : WideCtype width) (message : DeskMessage width) :
    (desktop.handle ctype message).2.server = desktop.server := by
  cases message with
  | call move =>
      simp only [handle]
      split <;> rfl
  | _ => exact (desktop.handle_keeps _ (by intro move same; cases same)).1

end VoiceDesktop

theorem Attended.step {desktop : VoiceDesktop width} (attended : Attended desktop)
    (ctype : WideCtype width) (move : DeskMove width) :
    Attended (deskStep ctype desktop move).2 := by
  cases move with
  | worker request =>
      have stepped := workerStep_stepped attended.sound.requests request
      refine ⟨serverStep_sound desktop.server (.worker request) attended.sound, ?_, ?_, ?_⟩
      · exact fun away => stepped.gui.trans (attended.resting away)
      · exact fun timer observed same => stepped.gui.trans (attended.stored timer observed same)
      · intro id serves
        obtain ⟨active, known, same⟩ := attended.serving id serves
        exact ⟨active, stepped.active active known, same⟩
  | owner move =>
      simp only [deskStep]
      split
      · exact attended
      · exact ⟨attended.sound, attended.resting, attended.stored, attended.serving⟩
  | message message =>
      simp only [deskStep]
      split
      · next idle =>
          obtain ⟨serving, stored⟩ := (desktop.handle_begins idle ctype message).serving
          refine attended.onward ?_ (desktop.handle_server ctype message) stored fun id serves => ?_
          · rw [idle]
            rfl
          · cases serving.symm.trans serves
      · exact attended
  | gui => exact attended.guiStep ctype

/-- `take()` returns the request. -/
def Hands (stage : DeskStage width) (request : CtiPendingRequest width) : Prop :=
  stage.output = .server (.taken (some request))

/-- The engine accepts the dial. -/
def AcceptsDial (stage : DeskStage width) (source : DialSource) (uri : Bytes) : Prop :=
  stage.input = .gui ∧ stage.output = .calls (.submitted true) ∧
    ∃ typed observed, stage.before.point = .submitting source typed observed uri

/-- Nothing is handed out in the stage, and no dial is accepted. -/
structure Calm (stage : DeskStage width) : Prop where
  unhanded : ∀ request, ¬ Hands stage request
  undialed : ∀ source uri, ¬ AcceptsDial stage source uri

/-- The request was handed out, and nothing was handed out or dialed since. -/
def Serves (history : List (DeskStage width)) (request : CtiPendingRequest width) : Prop :=
  ∃ before hand during, history = before ++ hand :: during ∧ Hands hand request ∧
    ∀ stage ∈ during, Calm stage

/-- The request was handed out, and its dial accepted; nothing else since. -/
def Answered (history : List (DeskStage width)) (id : UInt64) : Prop :=
  ∃ older accept during uri, history = older ++ accept :: during ∧
    (∃ request, request.id = id ∧ Serves older request) ∧ AcceptsDial accept (.request id) uri ∧
      ∀ stage ∈ during, Calm stage

/-- What the interface dials for a request is the destination of the request. -/
def DialSource.Asks (ctype : WideCtype width) (history : List (DeskStage width))
    (source : DialSource) (typed : WString width) : Prop :=
  match source with
  | .button => True
  | .request id => ∃ request, request.id = id ∧ Serves history request ∧
      validateAddress ctype request.destination = ⟨.none, typed⟩

/-- Where the dial has come to. -/
def DeskPoint.Known (ctype : WideCtype width) (account : SipAccount width)
    (history : List (DeskStage width)) : DeskPoint width → Prop
  | .taken request | .granting request _ => Serves history request
  | .dialing source typed | .authorizing source typed _ => source.Asks ctype history typed
  | .rechecking source typed _ destination | .recording source typed _ destination =>
      source.Asks ctype history typed ∧ validateAddress ctype typed = ⟨.none, destination⟩
  | .submitting source typed _ uri =>
      source.Asks ctype history typed ∧ ∃ destination,
        validateAddress ctype typed = ⟨.none, destination⟩ ∧
          (nativeCallDestinationResult ctype destination account).succeeds = true ∧
            (nativeCallDestinationResult ctype destination account).uri = uri
  | .completing id submitted =>
      if submitted then Answered history id
      else ∃ request, request.id = id ∧ Serves history request
  | _ => True

section Extend

variable {history : List (DeskStage width)} {last : DeskStage width} {account : SipAccount width}

theorem Serves.extend {request : CtiPendingRequest width} (serves : Serves history request)
    (calm : Calm last) : Serves (history ++ [last]) request := by
  obtain ⟨before, hand, during, rfl, hands, quiet⟩ := serves
  exact ⟨before, hand, during ++ [last], by simp, hands, forall_mem_concat quiet calm⟩

theorem Answered.extend {id : UInt64} (answered : Answered history id) (calm : Calm last) :
    Answered (history ++ [last]) id := by
  obtain ⟨older, accept, during, uri, rfl, handed, accepts, quiet⟩ := answered
  exact ⟨older, accept, during ++ [last], uri, by simp, handed, accepts,
    forall_mem_concat quiet calm⟩

theorem DialSource.Asks.extend {source : DialSource} {typed : WString width}
    (asks : source.Asks ctype history typed) (calm : Calm last) :
    source.Asks ctype (history ++ [last]) typed := by
  cases source with
  | button => trivial
  | request id =>
      obtain ⟨request, same, serves, text⟩ := asks
      exact ⟨request, same, serves.extend calm, text⟩

/-- A source whose dial ends without a submission. -/
theorem DialSource.Asks.refused {source : DialSource} {typed : WString width}
    (asks : source.Asks ctype history typed) (desktop : VoiceDesktop width) :
    (desktop.dialed false source).point.Known ctype account history := by
  cases source with
  | button => trivial
  | request id =>
      obtain ⟨request, same, serves, -⟩ := asks
      exact ⟨request, same, serves⟩

theorem DeskPoint.Known.extend {point : DeskPoint width}
    (known : point.Known ctype account history) (calm : Calm last) :
    point.Known ctype account (history ++ [last]) := by
  cases point with
  | taken | granting => exact Serves.extend known calm
  | dialing | authorizing => exact DialSource.Asks.extend known calm
  | rechecking | recording | submitting => exact ⟨known.1.extend calm, known.2⟩
  | completing id submitted =>
      cases submitted with
      | true => exact Answered.extend known calm
      | false => exact known.imp fun request served => ⟨served.1, served.2.extend calm⟩
  | idle | refreshing | judging | publishing | rejecting | taking | linking | asking => trivial

end Extend

theorem authorizeDial_normalized {observed : SipRuntimeObservation} {session : UInt64}
    {selected : EngineSelection} {typed : WString width}
    (allowed : (authorizeDial ctype observed session selected typed).reason = .none) :
    validateAddress ctype typed =
      ⟨.none, (authorizeDial ctype observed session selected typed).normalizedDestination⟩ := by
  unfold authorizeDial at allowed ⊢
  split at allowed
  · cases allowed
  next filled =>
  rw [if_neg filled]
  dsimp only at allowed ⊢
  split at allowed
  · cases allowed
  next valid =>
  rw [if_neg valid]
  split at allowed
  · cases allowed
  next controlled =>
  rw [if_neg controlled]
  split at allowed
  · split at allowed
    · cases allowed
    · next registered =>
        rw [if_neg registered]
        have none_ : (validateAddress ctype typed).error = .none := by
          simpa [AddressResult.valid] using valid
        exact congrArg (AddressResult.mk · _) none_
  · cases allowed

theorem authorizeCallCommand_normalized {observed : SipRuntimeObservation} {session : UInt64}
    {selected : EngineSelection} {destination : WString width}
    (allowed : (authorizeCallCommand ctype observed session selected .dial 0
      destination).allowed = true) :
    validateAddress ctype destination = ⟨.none,
      (authorizeCallCommand ctype observed session selected .dial 0 destination).destination⟩ := by
  simp only [authorizeCallCommand, authorizeDialCommand] at allowed ⊢
  split at allowed
  · cases allowed
  next free =>
  rw [if_neg free]
  split at allowed
  · next dial =>
      rw [if_pos dial]
      exact authorizeDial_normalized dial
  · next denied =>
      exfalso
      revert allowed denied
      generalize (authorizeDial ctype observed session selected destination).reason = reason
      cases reason <;> simp [CallCommandPermit.allowed, DialDenied.asCommandDenied]

section Account

variable (state : CallEngine width) (observed : SipRuntimeObservation) (port : BaresipSdkCallPort)
  (pending : NativeCallCommand)

theorem concluded_account (effect : CallEffect) :
    (state.concluded observed port effect).engine.account = state.engine.account := by
  cases effect <;> rfl

theorem asked_account (refused : CallEffect) (answer : Option BaresipSdkEventAdapter) :
    (state.asked observed port pending refused answer).engine.account = state.engine.account := by
  cases answer with
  | none => exact concluded_account state observed port refused
  | some adapter => rfl

theorem dispatch_account (answers : TickAnswers width) :
    (state.dispatch ctype observed port pending answers).2.engine.account =
      state.engine.account := by
  unfold CallEngine.dispatch
  dsimp only
  split
  · rfl
  · split <;> rfl
  · split
    · exact asked_account ..
    · rfl
  · split
    · exact asked_account ..
    · rfl
  · split
    · exact concluded_account ..
    · rfl
  · split <;> rfl
  · exact asked_account ..
  · split
    · split
      · exact concluded_account ..
      · rfl
    · rfl

theorem returned_account (answers : TickAnswers width) :
    (state.returned observed port pending answers).engine.account = state.engine.account := by
  unfold CallEngine.returned
  split
  · exact concluded_account ..
  · exact concluded_account ..
  · exact concluded_account ..
  · exact concluded_account ..
  · exact concluded_account ..
  · exact concluded_account (state.withAdapter _) ..
  · exact concluded_account ..
  · exact concluded_account ..

theorem check_account (answers : TickAnswers width) :
    (state.check ctype observed port pending answers).engine.account = state.engine.account := by
  unfold CallEngine.check
  split
  · rfl
  · split <;> rfl

theorem beginTick_account (answers : TickAnswers width) :
    (state.beginTick answers).engine.account = state.engine.account := by
  unfold CallEngine.beginTick
  split
  · rfl
  · simp only [CallEngine.judge]
    split <;> rfl

theorem ownerStep_account (answers : TickAnswers width) :
    (state.ownerStep ctype answers).2.engine.account = state.engine.account := by
  unfold CallEngine.ownerStep
  split
  · rfl
  · rfl
  · rfl
  · exact check_account ..
  · exact dispatch_account ..
  · exact returned_account ..
  · rfl
  · rfl
  · rfl

/-- The owner leaves the account to the interface. -/
theorem callStep_account {move : CallMove width} (own : ofOwner move = true) :
    (callStep ctype state move).2.engine.account = state.engine.account := by
  cases move with
  | submit | ui => cases own
  | owner answers => exact ownerStep_account state answers
  | throws => rfl
  | begin ownedUa outcome now =>
      simp only [callStep]
      split
      · rfl
      · simp only [CallEngine.beginAdapter]
        split <;> rfl
  | tick answers =>
      simp only [callStep]
      split
      · rfl
      · exact beginTick_account state answers
  | beginFails | deliver | ends =>
      simp only [callStep]
      split <;> rfl

end Account

/-! ## Where the dial comes to in a run -/

section Steps

variable {desktop : VoiceDesktop width}

theorem calm_of_nothing {stage : DeskStage width} (shown : stage.output = .nothing) :
    Calm stage := by
  refine ⟨fun request hands => ?_, fun source uri accepts => ?_⟩
  · cases shown.symm.trans hands
  · cases shown.symm.trans accepts.2.1

theorem calm_of_calls {stage : DeskStage width} {observed : CallObserved}
    (shown : stage.output = .calls observed) (away : stage.input ≠ .gui) : Calm stage := by
  refine ⟨fun request hands => ?_, fun source uri accepts => away accepts.1⟩
  cases shown.symm.trans hands

theorem calm_of_server {stage : DeskStage width} {observed : Observed width}
    (shown : stage.output = .server observed)
    (untaken : ∀ request, observed ≠ .taken (some request)) : Calm stage := by
  refine ⟨fun request hands => ?_, fun source uri accepts => ?_⟩
  · cases shown.symm.trans hands
    exact untaken request rfl
  · cases shown.symm.trans accepts.2.1

theorem calm_worker (request : WorkerRequest width) :
    Calm (stageOf (deskStep ctype) desktop (.worker request)) :=
  calm_of_server (rfl : _ = DeskObserved.server (desktop.server.workerStep request).1)
    fun _ => workerStep_untaken desktop.server request _

theorem calm_owner (move : CallMove width) :
    Calm (stageOf (deskStep ctype) desktop (.owner move)) := by
  cases own : ofOwner move with
  | true =>
      refine @calm_of_calls _ _ (callStep ctype desktop.calls move).1 ?_ (by nofun)
      simp only [stageOf, deskStep, own]
      rfl
  | false =>
      refine calm_of_nothing ?_
      simp only [stageOf, deskStep, own]
      rfl

theorem calm_message (message : DeskMessage width) :
    Calm (stageOf (deskStep ctype) desktop (.message message)) := by
  refine ⟨fun request hands => ?_, fun source uri accepts => by cases accepts.1⟩
  obtain ⟨asked, known, -⟩ := deskStep_server hands
  cases known

/-- Elsewhere the interface neither takes a request nor submits a dial. -/
theorem calm_gui (attended : Attended desktop) (taking : desktop.point ≠ .taking)
    (submitting : ∀ source typed observed uri,
      desktop.point ≠ .submitting source typed observed uri) :
    Calm (stageOf (deskStep ctype) desktop .gui) := by
  refine ⟨fun request hands => ?_, fun source uri ⟨_, _, typed, observed, point⟩ =>
    submitting source typed observed uri point⟩
  obtain ⟨asked, known, shown⟩ := deskStep_server hands
  obtain ⟨call, calls, rfl⟩ := Option.map_eq_some_iff.mp known
  change (desktop.server.guiStep call).1 = _ at shown
  have stepped := guiStep_stepped attended.sound call
  rw [shown] at stepped
  generalize (desktop.server.guiStep call).2 = after at stepped
  have holding : desktop.server.gui = .takeHolding request := by
    cases stepped with
    | returned holding => exact holding
    | rejected rejecting advanced emptied observed kind => rcases kind with kind | kind <;> cases kind
  cases point : desktop.point with
  | taking => exact taking point
  | rejecting timer observed =>
      cases (attended.stored timer observed point).symm.trans holding
  | publishing | completing =>
      have idle := attended.resting (by rw [point]; rfl)
      cases idle.symm.trans holding
  | idle | refreshing | judging | taken | granting | dialing | authorizing | rechecking | recording
  | submitting | linking | asking =>
      rw [point] at calls
      cases calls

variable {history : List (DeskStage width)}

/-- `take()` hands a request out, or leads nowhere yet. -/
theorem known_taking (point : desktop.point = .taking) :
    (deskStep ctype desktop .gui).2.point.Known ctype
      (deskStep ctype desktop .gui).2.calls.engine.account
        (history ++ [stageOf (deskStep ctype) desktop .gui]) := by
  generalize shown : stageOf (deskStep ctype) desktop .gui = last
  simp only [deskStep, VoiceDesktop.guiStep, point]
  split
  · next request taken =>
      refine ⟨history, last, [], by simp, ?_, (by simp)⟩
      rw [← shown]
      simp only [Hands, stageOf, deskStep, VoiceDesktop.guiStep, point, taken]
  · trivial
  · trivial

/-- A request that was handed out is granted with a destination in its normal form. -/
theorem known_granting {request : CtiPendingRequest width} {observed : SipRuntimeObservation}
    {last : DeskStage width} (point : desktop.point = .granting request observed)
    (serves : Serves (history ++ [last]) request) :
    (deskStep ctype desktop .gui).2.point.Known ctype
      (deskStep ctype desktop .gui).2.calls.engine.account (history ++ [last]) := by
  simp only [deskStep, VoiceDesktop.guiStep, point]
  split
  · exact ⟨request, rfl, serves⟩
  · next granted =>
      refine ⟨request, rfl, serves, authorizeCallCommand_normalized ?_⟩
      simp only [Bool.or_eq_true, Bool.not_eq_true', not_or, Bool.not_eq_false] at granted
      exact granted.1

/-- A dial goes on from check to check, or ends without a submission. -/
theorem known_dialing {source : DialSource} {typed : WString width}
    {observed : SipRuntimeObservation} {last : DeskStage width}
    (asks : source.Asks ctype (history ++ [last]) typed)
    (point : desktop.point = .authorizing source typed observed ∨
      ∃ destination, validateAddress ctype typed = ⟨.none, destination⟩ ∧
        (desktop.point = .rechecking source typed observed destination ∨
          desktop.point = .recording source typed observed destination)) :
    (deskStep ctype desktop .gui).2.point.Known ctype
      (deskStep ctype desktop .gui).2.calls.engine.account (history ++ [last]) := by
  rcases point with point | ⟨destination, normal, point | point⟩
  · simp only [deskStep, VoiceDesktop.guiStep, point]
    split
    · exact asks.refused desktop
    · next permitted => exact ⟨asks, authorizeDial_normalized (not_not.mp permitted)⟩
  · simp only [deskStep, VoiceDesktop.guiStep, point]
    split
    · exact asks.refused desktop
    · exact ⟨asks, normal⟩
  · simp only [deskStep, VoiceDesktop.guiStep, point]
    split
    · next valid => exact ⟨asks, destination, normal, valid, rfl⟩
    · exact asks.refused _

/-- A dial that the engine refuses changes nothing. -/
theorem calm_refused {source : DialSource} {typed : WString width}
    {observed : SipRuntimeObservation} {uri : Bytes}
    (point : desktop.point = .submitting source typed observed uri)
    (refused : (callStep ctype desktop.calls (.submit { action := .dial, uri := uri })).1 ≠
      .submitted true) : Calm (stageOf (deskStep ctype) desktop .gui) := by
  refine ⟨fun request hands => ?_, fun source uri accepts => ?_⟩
  · simp only [Hands, stageOf, deskStep, VoiceDesktop.guiStep, point] at hands
    cases hands
  · have accepted := accepts.2.1
    simp only [stageOf, deskStep, VoiceDesktop.guiStep, point] at accepted
    exact refused (DeskObserved.calls.inj accepted)

theorem known_submitting {source : DialSource} {typed : WString width}
    {observed : SipRuntimeObservation} {uri : Bytes}
    (point : desktop.point = .submitting source typed observed uri)
    (asks : source.Asks ctype history typed) :
    (deskStep ctype desktop .gui).2.point.Known ctype
      (deskStep ctype desktop .gui).2.calls.engine.account
        (history ++ [stageOf (deskStep ctype) desktop .gui]) := by
  have calm := @calm_refused _ ctype _ _ _ _ _ point
  generalize shown : stageOf (deskStep ctype) desktop .gui = last at calm ⊢
  simp only [deskStep, VoiceDesktop.guiStep, point]
  split
  · next accepted =>
      cases source with
      | button => trivial
      | request id =>
          obtain ⟨request, same, serves, -⟩ := asks
          refine ⟨history, last, [], uri, by simp, ⟨request, same, serves⟩, ?_, (by simp)⟩
          rw [← shown]
          refine ⟨rfl, ?_, typed, observed, point⟩
          simp only [stageOf, deskStep, VoiceDesktop.guiStep, point, accepted]
  · next refused => exact (asks.extend (calm refused)).refused _

theorem known_gui (attended : Attended desktop)
    (known : desktop.point.Known ctype desktop.calls.engine.account history) :
    (deskStep ctype desktop .gui).2.point.Known ctype
      (deskStep ctype desktop .gui).2.calls.engine.account
        (history ++ [stageOf (deskStep ctype) desktop .gui]) := by
  have calm (taking : desktop.point ≠ .taking)
      (submitting : ∀ source typed observed uri,
        desktop.point ≠ .submitting source typed observed uri) :
      Calm (stageOf (deskStep ctype) desktop .gui) := calm_gui attended taking submitting
  cases point : desktop.point with
  | taking => exact known_taking point
  | submitting source typed observed uri =>
      rw [point] at known
      exact known_submitting point known.1
  | taken request =>
      rw [point] at known
      simp only [deskStep, VoiceDesktop.guiStep, point]
      exact Serves.extend known (calm (by simp [point]) (by simp [point]))
  | granting request observed =>
      rw [point] at known
      exact known_granting point (Serves.extend known (calm (by simp [point]) (by simp [point])))
  | dialing source typed =>
      rw [point] at known
      simp only [deskStep, VoiceDesktop.guiStep, point]
      exact DialSource.Asks.extend known (calm (by simp [point]) (by simp [point]))
  | authorizing source typed observed =>
      rw [point] at known
      exact known_dialing
        (DialSource.Asks.extend known (calm (by simp [point]) (by simp [point]))) (.inl point)
  | rechecking source typed observed destination =>
      rw [point] at known
      exact known_dialing (known.1.extend (calm (by simp [point]) (by simp [point])))
        (.inr ⟨destination, known.2, .inl point⟩)
  | recording source typed observed destination =>
      rw [point] at known
      exact known_dialing (known.1.extend (calm (by simp [point]) (by simp [point])))
        (.inr ⟨destination, known.2, .inr point⟩)
  | publishing timer =>
      simp only [deskStep, VoiceDesktop.guiStep, point]
      split
      · cases timer <;> trivial
      · trivial
  | rejecting timer =>
      simp only [deskStep, VoiceDesktop.guiStep, point]
      cases timer <;> trivial
  | asking =>
      simp only [deskStep, VoiceDesktop.guiStep, point]
      split <;> trivial
  | idle | refreshing | judging | linking | completing =>
      simp only [deskStep, VoiceDesktop.guiStep, point]
      trivial

end Steps

end AxeVoice.Desktop
