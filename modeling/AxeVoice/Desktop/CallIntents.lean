import AxeVoice.Desktop.CallPanel
import AxeVoice.Desktop.Requests
import AxeVoice.Foundation.Conveyance

/-!
# What the user asks of a call, and what the SDK is asked for

A press of a control asks for an action on the call that is shown.  The handler,
the engine and the owner may each drop it; what the owner asks of the SDK is what
was pressed for, with the digit, the destination or the state of the press, in
that order, and each press counts once at most.
-/

namespace AxeVoice.Desktop

open Command Foundation Native Sip

variable {width : WCharWidth} {ctype : WideCtype width}

/-- An action on a call; a dial begins one. -/
def actsOnCall (command : NativeCallCommand) : Bool :=
  command.action ≠ .none && command.action ≠ .dial

/-- The command that the owner carries out on a call. -/
def carriedCommand (stage : CallStage width) : Option NativeCallCommand :=
  match stage.output, stage.before.point with
  | .invoked .., .dispatching _ _ pending => some pending
  | _, _ => none

/-- The command for a call that `submit` leaves. -/
def acceptedCommand (stage : CallStage width) : Option NativeCallCommand :=
  match stage.input, stage.output with
  | .submit request, .submitted true =>
      Option.filter actsOnCall (some { request.command with
        session := stage.before.engine.view.session
        callId := stage.before.engine.view.callId })
  | _, _ => none

/-- The commands for calls that are accepted and not yet carried out, the older first. -/
def callsInFlight (state : CallEngine width) : List NativeCallCommand :=
  (state.point.held.filter actsOnCall).toList ++
    (Option.filter actsOnCall (some state.engine.command)).toList

theorem filter_held_sublist {held other : Option NativeCallCommand}
    (kept : ∀ command, held = some command → other = some command) :
    (held.filter actsOnCall).toList.Sublist (other.filter actsOnCall).toList := by
  cases held with
  | none => exact List.nil_sublist _
  | some command => rw [kept command rfl]

theorem filter_queued_sublist {command other : NativeCallCommand}
    (kept : command = other ∨ command = {}) :
    (Option.filter actsOnCall (some command)).toList.Sublist
      (Option.filter actsOnCall (some other)).toList := by
  rcases kept with rfl | rfl
  · exact List.Sublist.refl _
  · exact List.nil_sublist _

theorem carriedCommand_of_invoked {state : CallEngine width} {move : CallMove width}
    {action : NativeCallAction} {session token : UInt64}
    (shown : (callStep ctype state move).1 = .invoked action session token) :
    ∃ observed port pending, state.point = .dispatching observed port pending ∧
      carriedCommand (stageOf (callStep ctype) state move) = some pending ∧
        actsOnCall pending = true := by
  obtain ⟨observed, port, pending, point, calls, -, -, -⟩ := callStep_invoked shown
  refine ⟨observed, port, pending, point, ?_, ?_⟩
  · simp only [carriedCommand, stageOf, shown, point]
  · rw [actsOnCall, decide_eq_true calls, Bool.and_true, decide_eq_true_eq]
    intro none_
    cases move with
    | owner answers =>
        simp only [callStep, CallEngine.ownerStep, point, CallEngine.dispatch, none_] at shown
        cases shown
    | submit | ui | throws => cases shown
    | begin | beginFails | tick | deliver | ends =>
        simp only [callStep] at shown
        split at shown <;> cases shown

theorem commands_convey (ctype : WideCtype width) :
    Conveys (callStep ctype) callsInFlight acceptedCommand carriedCommand := by
  intro state move
  have stepped := callStep_stepped ctype state move
  by_cases invokes : ∃ action session token, (callStep ctype state move).1 = .invoked action session token
  · obtain ⟨action, session, token, shown⟩ := invokes
    obtain ⟨observed, port, pending, point, carried, acts⟩ := carriedCommand_of_invoked shown
    have held : state.point.held = some pending := by
      rw [point]
      rfl
    rw [shown] at stepped
    cases stepped with
    | passed passes =>
        have loose : (callStep ctype state move).2.point.held = none := by
          cases still : (callStep ctype state move).2.point.held with
          | none => rfl
          | some other => exact absurd rfl ((passes.held other still).2 action session token)
        rw [carried, callsInFlight, callsInFlight, loose, held, Option.filter_some_pos acts]
        refine List.Sublist.trans ?_ (List.sublist_append_left _ _)
        exact (filter_queued_sublist passes.queued).cons_cons _
  · have uncarried : carriedCommand (stageOf (callStep ctype) state move) = none := by
      simp only [carriedCommand, stageOf]
      split
      · next shown _ => exact absurd ⟨_, _, _, shown⟩ invokes
      · rfl
    rw [uncarried, Option.toList_none, List.nil_append, callsInFlight, callsInFlight]
    generalize shown : callStep ctype state move = result at stepped
    obtain ⟨output, after⟩ := result
    cases stepped with
    | @submitted request _ current point command =>
        have accepted : acceptedCommand (stageOf (callStep ctype) state (.submit request)) =
            Option.filter actsOnCall (some after.engine.command) := by
          simp only [acceptedCommand, stageOf, shown]
          exact congrArg (Option.filter actsOnCall) (congrArg some command.symm)
        rw [accepted, point]
        exact (List.sublist_append_left _ _).append (List.Sublist.refl _)
    | took point held command =>
        refine List.Sublist.trans ?_ (List.sublist_append_left _ _)
        rw [held, command]
        exact (List.append_nil _).symm ▸ List.sublist_append_right _ _
    | passed passes =>
        refine List.Sublist.trans ?_ (List.sublist_append_left _ _)
        exact (filter_held_sublist fun command now => (passes.held command now).1).append
          (filter_queued_sublist passes.queued)

/-- What a step of the interface asks of the engine. -/
def guiAsked (ctype : WideCtype width) (panel : CallPanel width) : Option (CallMove width) :=
  match panel.point with
  | .recording review =>
      some (.ui (.recorded (nativeTransferDestinationResult ctype review.target
        panel.calls.engine.account).error))
  | .submitting request => some (.submit request)
  | _ => none

def panelAsked (ctype : WideCtype width) (panel : CallPanel width) :
    CallPanelMove width → Option (CallMove width)
  | .owner move => if ofOwner move then some move else none
  | .message (.call move) =>
      match panel.point with
      | .idle => if besideControls move then some move else none
      | _ => none
  | .gui _ => guiAsked ctype panel
  | .message _ => none

namespace CallPanel

variable (panel : CallPanel width)

theorem handle_calls (message : CallPanelMessage width) (own : ∀ move, message ≠ .call move) :
    (panel.handle ctype message).2.calls = panel.calls := by
  cases message with
  | call move => exact absurd rfl (own move)
  | press button => cases button <;> rfl
  | key index =>
      simp only [handle, pressKey]
      split <;> rfl
  | confirm yes =>
      simp only [handle]
      split <;> rfl
  | refresh | preferences | backspace | clear | edit => rfl

theorem guiStep_calls (now : UInt64) :
    (panel.guiStep ctype now).2.calls = match guiAsked ctype panel with
      | some move => (callStep ctype panel.calls move).2
      | none => panel.calls := by
  cases point : panel.point with
  | idle | toggling | recording | submitting => simp only [guiStep, point, guiAsked]
  | refreshing | gating | showing =>
      simp only [guiStep, point, guiAsked]
      rfl
  | keying | controlling | answering | preferring | transferring =>
      simp only [guiStep, point, guiAsked]
      split <;> rfl

end CallPanel

/-- The engine, whose steps its owner and the interface take. -/
def callsWithin (ctype : WideCtype width) :
    Component (callPanelStep ctype) (@callStep width ctype) where
  part := CallPanel.calls
  asked := panelAsked ctype
  moves {panel move request} asked := by
    cases move with
    | gui now =>
        have known : guiAsked ctype panel = some request := asked
        exact (panel.guiStep_calls now).trans (by rw [known])
    | owner move =>
        simp only [panelAsked] at asked
        split at asked
        · next own =>
            cases asked
            simp only [callPanelStep, own]
            rfl
        · cases asked
    | message message =>
        cases message with
        | call move =>
            simp only [panelAsked] at asked
            split at asked
            · next point =>
                split at asked
                · next own =>
                    cases asked
                    simp only [callPanelStep, point, CallPanel.handle, own]
                    rfl
                · cases asked
            · cases asked
        | _ => cases asked
  rests {panel move} asked := by
    cases move with
    | gui now =>
        have known : guiAsked ctype panel = none := asked
        exact (panel.guiStep_calls now).trans (by rw [known])
    | owner move =>
        simp only [panelAsked] at asked
        split at asked
        · cases asked
        · next other =>
            simp only [callPanelStep, other]
            rfl
    | message message =>
        cases message with
        | call move =>
            simp only [panelAsked] at asked
            simp only [callPanelStep]
            split
            · next point =>
                simp only [point] at asked
                split at asked
                · cases asked
                · next other =>
                    simp only [CallPanel.handle, other]
                    rfl
            · rfl
        | _ =>
            simp only [callPanelStep]
            split
            · exact panel.handle_calls _ fun move same => by cases same
            · rfl

/-- The command of a request, for the call that it was shown for. -/
def requestedCommand (request : CallRequest) : NativeCallCommand :=
  match request.action with
  | .answer | .hangup => request.displayed.elim request.command fun displayed =>
      { request.command with session := displayed.session, callId := displayed.callId }
  | _ => request.expected.elim request.command fun expected =>
      { request.command with session := expected.session, callId := expected.callId }

namespace CallPanel

variable (panel : CallPanel width) (ctype : WideCtype width)

def transferRequest (review : TransferReview width) : CallRequest :=
  { action := .transfer
    uri := (nativeTransferDestinationResult ctype review.target panel.calls.engine.account).uri
    expected := some review.expected }

/-- What the user asks for with a message to the window. -/
def asksFor : CallPanelMessage width → Option CallRequest
  | .press .answer => some (panel.callRequest false)
  | .press .hangup => some (panel.callRequest true)
  | .preferences reject => some (panel.callRequest reject)
  | .press .mute => some (panel.mediaRequest false)
  | .press .hold => some (panel.mediaRequest true)
  | .key index => if panel.dtmf.armed then some (panel.keyRequest (dialpadKey index)) else none
  | .confirm true => panel.reviews.head?.map (panel.transferRequest ctype)
  | _ => none

/-- What the interface is about to ask of the engine. -/
def pursues : Option CallRequest :=
  match panel.point with
  | .keying key => some (panel.keyRequest key)
  | .controlling hold => some (panel.mediaRequest hold)
  | .answering hangup => some (panel.callRequest hangup)
  | .preferring reject => some (panel.callRequest reject)
  | .recording review => some (panel.transferRequest ctype review)
  | .submitting request => some request
  | _ => none

/-- The command that the interface pursues, where it acts on a call. -/
def pursued : List NativeCallCommand :=
  (((panel.pursues ctype).map requestedCommand).filter actsOnCall).toList

end CallPanel

/-- What the user asks for in a stage. -/
def pressedCommand (ctype : WideCtype width) (stage : CallPanelStage width) :
    Option NativeCallCommand :=
  match stage.input, stage.before.point with
  | .message message, .idle => (stage.before.asksFor ctype message).map requestedCommand
  | _, _ => none

/-- An accepted request names the call that it was shown for. -/
theorem requestedCommand_of_current {request : CallRequest} {engine : BaresipSipEngine width}
    (current : request.current engine = true) (acts : actsOnCall request.command = true) :
    requestedCommand request = { request.command with
      session := engine.view.session
      callId := engine.view.callId } := by
  rw [actsOnCall, Bool.and_eq_true, decide_eq_true_eq, decide_eq_true_eq] at acts
  have shows := CallRequest.shows_of_current current acts.1 acts.2
  unfold CallRequest.Shows at shows
  unfold requestedCommand
  cases action : request.action with
  | none => exact absurd action acts.1
  | dial => exact absurd action acts.2
  | answer | hangup =>
      simp only [action] at shows
      obtain ⟨displayed, known, session, callId, -⟩ := shows
      simp only [known, Option.elim, session, callId]
  | setMute | setHold | transfer | dtmf =>
      simp only [action] at shows
      obtain ⟨expected, known, session, callId, -⟩ := shows
      simp only [known, Option.elim, session, callId]

theorem acceptedCommand_of_other {state : CallEngine width} {move : CallMove width}
    (other : ∀ request, move = .submit request → request.action = .dial) :
    acceptedCommand (stageOf (callStep ctype) state move) = none := by
  cases move with
  | submit request =>
      have dial := other request rfl
      simp only [acceptedCommand, stageOf]
      split
      · next shown _ =>
          cases shown
          rw [Option.filter_some_neg]
          simp [actsOnCall, CallRequest.command, dial]
      · rfl
  | ui | begin | beginFails | tick | owner | throws | deliver | ends => rfl

/-- What is accepted of a request is the command of what was shown. -/
theorem acceptedCommand_submit {state : CallEngine width} {request : CallRequest}
    {command : NativeCallCommand}
    (accepted : acceptedCommand (stageOf (callStep ctype) state (.submit request)) = some command) :
    (some (requestedCommand request)).filter actsOnCall = some command := by
  have allowed : (state.engine.submit request.command (request.current state.engine)).1 = true →
      request.current state.engine = true := by
    unfold BaresipSipEngine.submit
    split
    · intro refused
      cases refused
    · next passed =>
        simp only [Bool.or_eq_true, Bool.not_eq_true', not_or, Bool.not_eq_false] at passed
        exact fun _ => passed.2
  simp only [acceptedCommand, stageOf, callStep] at accepted
  cases done : (state.engine.submit request.command (request.current state.engine)).1 with
  | false =>
      rw [done] at accepted
      cases accepted
  | true =>
      rw [done] at accepted
      obtain ⟨same, acts⟩ := Option.filter_eq_some_iff.mp accepted
      cases same
      rw [requestedCommand_of_current (allowed done) acts]
      exact Option.filter_some_pos acts

theorem delivered_away {panel : CallPanel width} {move : CallPanelMove width}
    (away : ∀ now request, move = .gui now → panel.point ≠ .submitting request) :
    ((callsWithin ctype).within (stageOf (callPanelStep ctype) panel move)).bind acceptedCommand =
      none := by
  cases asked : panelAsked ctype panel move with
  | none =>
      simp only [Component.within, callsWithin, stageOf, asked]
      rfl
  | some request =>
      have other : acceptedCommand (stageOf (callStep ctype) panel.calls request) = none := by
        refine acceptedCommand_of_other ?_
        rintro submitted rfl
        cases move with
        | owner move =>
            simp only [panelAsked] at asked
            split at asked
            · next own =>
                cases asked
                cases own
            · cases asked
        | gui now =>
            cases point : panel.point with
            | submitting other => exact absurd point (away now other rfl)
            | recording | idle | refreshing | gating | showing | toggling | keying | controlling
            | answering | preferring | transferring =>
                simp only [panelAsked, guiAsked, point] at asked
                cases asked
        | message message =>
            cases message with
            | call move =>
                simp only [panelAsked] at asked
                split at asked
                · split at asked
                  · next beside =>
                      cases asked
                      exact of_decide_eq_true beside
                  · cases asked
                · cases asked
            | _ => cases asked
      simp only [Component.within, callsWithin, stageOf, asked]
      exact other

namespace CallPanel

variable {panel : CallPanel width}

/-- Behind a message the interface pursues what the user asks for. -/
theorem handle_pursues (point : panel.point = .idle) (message : CallPanelMessage width) :
    (panel.handle ctype message).2.pursues ctype = panel.asksFor ctype message := by
  cases message with
  | press button => cases button <;> rfl
  | key index =>
      simp only [handle, pressKey, asksFor]
      split
      · rfl
      · simp only [pursues, point]
  | confirm yes =>
      cases opened : panel.reviews with
      | nil => cases yes <;> simp [handle, asksFor, opened, pursues, point]
      | cons review reviews => cases yes <;> simp [handle, asksFor, opened, pursues, transferRequest]
  | call move =>
      simp only [handle, asksFor]
      split
      · simp only [pursues, point]
      · simp only [pursues, point]
  | refresh | preferences => rfl
  | backspace | clear | edit => simp only [handle, pursues, point, asksFor]

/-- A step of the interface goes on with what it pursues, or drops it. -/
theorem guiStep_pursues (now : UInt64) (away : ∀ request, panel.point ≠ .submitting request) :
    (panel.guiStep ctype now).2.pursues ctype = panel.pursues ctype ∨
      (panel.guiStep ctype now).2.pursues ctype = none := by
  cases point : panel.point with
  | submitting request => exact absurd point (away request)
  | idle | toggling => simp [guiStep, point, pursues]
  | refreshing | gating | showing => simp [guiStep, point, pursues, observe, gate, showMedia]
  | keying | controlling | answering | preferring | transferring =>
      simp only [guiStep, point]
      split <;> simp [pursues, point, rest, keyRequest, mediaRequest, callRequest]
  | recording review =>
      simp only [guiStep, point]
      split <;> simp [pursues, point, transferRequest]

theorem pursued_of_pursues {other : CallPanel width}
    (kept : other.pursues ctype = panel.pursues ctype ∨ other.pursues ctype = none) :
    (other.pursued ctype).Sublist (panel.pursued ctype) := by
  unfold pursued
  rcases kept with same | dropped
  · rw [same]
  · rw [dropped]
    exact List.nil_sublist _

/-- The owner leaves what the interface pursues. -/
theorem owner_pursues (move : CallMove width) :
    (callPanelStep ctype panel (.owner move)).2.pursues ctype = panel.pursues ctype := by
  simp only [callPanelStep]
  split
  · rfl
  · next own =>
      have same := @callStep_account _ ctype panel.calls move (by simpa using own)
      cases point : panel.point with
      | recording review => simp only [pursues, transferRequest, same, point]
      | _ => simp only [pursues, point, keyRequest, mediaRequest, callRequest]

end CallPanel

theorem filter_toList_sublist (command : Option NativeCallCommand) :
    (command.filter actsOnCall).toList.Sublist command.toList := by
  cases command with
  | none => exact List.nil_sublist _
  | some command =>
      rw [Option.filter_some]
      split
      · exact List.Sublist.refl _
      · exact List.nil_sublist _

/-- The interface submits what was pressed for, in that order. -/
theorem presses_convey (ctype : WideCtype width) :
    Conveys (callPanelStep ctype) (CallPanel.pursued · ctype) (pressedCommand ctype)
      (fun stage => ((callsWithin ctype).within stage).bind acceptedCommand) := by
  intro panel move
  dsimp only
  cases move with
  | owner move =>
      rw [delivered_away fun now request same => by cases same]
      exact (CallPanel.pursued_of_pursues (.inl (panel.owner_pursues move))).trans
        (List.sublist_append_left _ _)
  | message message =>
      rw [delivered_away fun now request same => by cases same]
      by_cases point : panel.point = .idle
      · have none_ : panel.pursued ctype = [] := by
          simp only [CallPanel.pursued, CallPanel.pursues, point]
          rfl
        have stepped : (callPanelStep ctype panel (.message message)).2 =
            (panel.handle ctype message).2 := by
          simp only [callPanelStep, point]
        have pressed : pressedCommand ctype (stageOf (callPanelStep ctype) panel (.message message)) =
            (panel.asksFor ctype message).map requestedCommand := by
          simp only [pressedCommand, stageOf, point]
        rw [none_, stepped, pressed, CallPanel.pursued, CallPanel.handle_pursues point]
        exact filter_toList_sublist _
      · have stepped : (callPanelStep ctype panel (.message message)).2 = panel := by
          simp only [callPanelStep]
        rw [stepped]
        exact List.sublist_append_left _ _
  | gui now =>
      by_cases away : ∀ request, panel.point ≠ .submitting request
      · rw [delivered_away fun now request _ => away request]
        exact (CallPanel.pursued_of_pursues (CallPanel.guiStep_pursues now away)).trans
          (List.sublist_append_left _ _)
      · obtain ⟨request, point⟩ := not_forall_not.mp away
        have resting : (callPanelStep ctype panel (.gui now)).2.pursued ctype = [] := by
          simp only [callPanelStep, CallPanel.guiStep, point]
          rfl
        have within : (callsWithin ctype).within (stageOf (callPanelStep ctype) panel (.gui now)) =
            some (stageOf (callStep ctype) panel.calls (.submit request)) := by
          simp only [Component.within, callsWithin, panelAsked, guiAsked, stageOf, point]
          rfl
        have pursued : panel.pursued ctype =
            ((some (requestedCommand request)).filter actsOnCall).toList := by
          simp only [CallPanel.pursued, CallPanel.pursues, point]
          rfl
        rw [resting, within, pursued, List.append_nil, Option.bind_some]
        refine List.Sublist.trans ?_ (List.sublist_append_left _ _)
        cases accepted : acceptedCommand (stageOf (callStep ctype) panel.calls (.submit request)) with
        | none => exact List.nil_sublist _
        | some command => rw [acceptedCommand_submit accepted]

/-- The SDK is asked for what was pressed for, in that order, and once at most for a press. -/
theorem controls_convey (ctype : WideCtype width) :
    Conveys (callPanelStep ctype)
      (fun panel => callsInFlight panel.calls ++ panel.pursued ctype) (pressedCommand ctype)
      (fun stage => ((callsWithin ctype).within stage).bind carriedCommand) :=
  (presses_convey ctype).serial ((commands_convey ctype).within (callsWithin ctype))

end AxeVoice.Desktop
