import AxeVoice.Desktop.SentRequests
import AxeVoice.Native.DestinationLanguage

/-!
# What the server tells of its requests

A client polls the server for what has become of its request.  What it reads is
true: a request that is reported as submitted was dialed, and one that is reported
as rejected or cancelled was not, and will not be.
-/

namespace AxeVoice.Desktop

open Command Cti Foundation Native Sip

variable {width : WCharWidth} {ctype : WideCtype width} {history : List (DeskStage width)}
  {desktop : VoiceDesktop width} {move : DeskMove width}

theorem known_step (attended : Attended desktop)
    (known : desktop.point.Known ctype desktop.calls.engine.account history)
    (move : DeskMove width) :
    (deskStep ctype desktop move).2.point.Known ctype
      (deskStep ctype desktop move).2.calls.engine.account
        (history ++ [stageOf (deskStep ctype) desktop move]) := by
  cases move with
  | worker request => exact known.extend (calm_worker request)
  | gui => exact known_gui attended known
  | owner move =>
      have onward := known.extend (@calm_owner _ ctype desktop move)
      generalize stageOf (deskStep ctype) desktop (.owner move) = last at onward ⊢
      simp only [deskStep]
      cases own : ofOwner move with
      | false => exact onward
      | true =>
          have same := @callStep_account _ ctype desktop.calls _ own
          exact same ▸ onward
  | message message =>
      have onward := known.extend (@calm_message _ ctype desktop message)
      generalize stageOf (deskStep ctype) desktop (.message message) = last at onward ⊢
      simp only [deskStep]
      split
      · next idle =>
          have begins := desktop.handle_begins idle ctype message
          generalize (desktop.handle ctype message).2 = after at begins ⊢
          generalize after.point = point at begins
          cases begins <;> trivial
      · exact onward

/-- A dial for the request was accepted. -/
def Accepted (history : List (DeskStage width)) (id : UInt64) : Prop :=
  ∃ stage ∈ history, ∃ uri, AcceptsDial stage (.request id) uri

theorem accepted_concat {last : DeskStage width} {id : UInt64} :
    Accepted (history ++ [last]) id ↔
      Accepted history id ∨ ∃ uri, AcceptsDial last (.request id) uri := by
  constructor
  · rintro ⟨stage, member, accepts⟩
    rcases List.mem_append.mp member with before | now
    · exact .inl ⟨stage, before, accepts⟩
    · exact .inr (List.mem_singleton.mp now ▸ accepts)
  · rintro (⟨stage, member, accepts⟩ | accepts)
    · exact ⟨stage, List.mem_append_left _ member, accepts⟩
    · exact ⟨last, List.mem_append_right _ List.mem_cons_self, accepts⟩

theorem Answered.accepted {id : UInt64} (answered : Answered history id) : Accepted history id := by
  obtain ⟨older, accept, during, uri, rfl, -, accepts, -⟩ := answered
  exact ⟨accept, List.mem_append_right _ List.mem_cons_self, uri, accepts⟩

/-- What the queue tells agrees with what was dialed. -/
structure Truthful (ctype : WideCtype width) (history : List (DeskStage width))
    (desktop : VoiceDesktop width) : Prop where
  attended : Attended desktop
  known : desktop.point.Known ctype desktop.calls.engine.account history
  passed : ∀ id, Accepted history id → id.toNat ≤ desktop.server.requests.lastPassed
  served : ∀ request, desktop.server.requests.active = some request →
    Accepted history request.id → desktop.point = .completing request.id true
  submitted : ∀ id, desktop.server.requests.stateOf id = some .submitted → Accepted history id
  unsubmitted : ∀ id state, desktop.server.requests.stateOf id = some state →
    state.terminal = true → state ≠ .submitted → ¬ Accepted history id

theorem truthful_initial (ctype : WideCtype width) (link : Option (WString width)) :
    Truthful ctype [] (.launched ctype link) := by
  refine ⟨attended_initial ctype link, trivial, ?_, ?_, ?_, ?_⟩
  · rintro id ⟨stage, member, -⟩
    cases member
  · rintro request active -
    cases active
  · intro id known
    cases known
  · intro id state known
    cases known

/-- An operation that completes a request is the interface's, behind the dial. -/
theorem completing_of_operation (attended : Attended desktop) {turn : Cti.Move width}
    (asked : serverAsked desktop move = some turn) {id : UInt64} {submitted : Bool}
    (operation : desktop.server.operation turn = some (.complete id submitted)) :
    move = .gui ∧ desktop.point = .completing id submitted := by
  cases move with
  | worker request =>
      cases asked
      simp only [LocalCtiServer.operation, LocalCtiServer.workerOperation] at operation
      split at operation <;> cases operation
  | owner | message => cases asked
  | gui =>
      obtain ⟨call, known, rfl⟩ := Option.map_eq_some_iff.mp asked
      simp only [LocalCtiServer.operation, LocalCtiServer.guiOperation] at operation
      split at operation
      · cases operation
        cases point : desktop.point with
        | completing =>
            rw [point] at known
            cases known
            exact ⟨rfl, rfl⟩
        | idle | refreshing | judging | publishing | rejecting | taking | taken | granting | dialing
        | authorizing | rechecking | recording | submitting | linking | asking =>
            rw [point] at known
            cases known
      · cases operation
      · cases operation
      · cases operation
      · cases operation
      · cases operation
      · next lost => exact absurd lost (attended.sound.lost _)

/-- The interface reports the request that it has served. -/
theorem completing_step (attended : Attended desktop) {id : UInt64} {submitted : Bool}
    (point : desktop.point = .completing id submitted) :
    (deskStep ctype desktop .gui).1 = .server (.completed true) ∧
      (deskStep ctype desktop .gui).2.server.requests.active = none ∧
        (deskStep ctype desktop .gui).2.server.requests.stateOf id =
          some (if submitted then .submitted else .rejected) := by
  obtain ⟨request, active, rfl⟩ := attended.serving id (by rw [point]; rfl)
  have idle := attended.resting (by rw [point]; rfl)
  obtain ⟨done, free, state⟩ := complete_of_active attended.sound.requests active submitted
  simp only [deskStep, VoiceDesktop.guiStep, point, VoiceDesktop.serverCall, serverStep,
    LocalCtiServer.guiStep, idle, LocalCtiServer.guiBegin]
  exact ⟨by rw [done], free, state⟩

/-- The other threads leave the interface where it is. -/
theorem point_step (busy : desktop.point ≠ .idle) (other : move ≠ .gui) :
    (deskStep ctype desktop move).2.point = desktop.point := by
  cases move with
  | worker request => rfl
  | gui => exact absurd rfl other
  | owner move =>
      simp only [deskStep]
      split <;> rfl
  | message message =>
      simp only [deskStep]

/-- The engine accepts the dial for the request. -/
theorem accepting_step {id : UInt64} {uri : Bytes}
    (accepts : AcceptsDial (stageOf (deskStep ctype) desktop move) (.request id) uri) :
    desktop.point.serving = some id ∧
      (deskStep ctype desktop move).2.server = desktop.server ∧
        (deskStep ctype desktop move).2.point = .completing id true := by
  obtain ⟨gui, output, typed, observed, point⟩ := accepts
  change move = .gui at gui
  change desktop.point = _ at point
  subst gui
  refine ⟨by rw [point]; rfl, ?_, ?_⟩
  · exact (serverPart ctype).rests (by simp [serverPart, serverAsked, guiCall, point])
  · simp only [stageOf, deskStep, VoiceDesktop.guiStep, point] at output ⊢
    rw [if_pos (DeskObserved.calls.inj output)]
    rfl

theorem Truthful.accept (truthful : Truthful ctype history desktop) {id : UInt64} {uri : Bytes}
    (accepts : AcceptsDial (stageOf (deskStep ctype) desktop move) (.request id) uri) :
    Truthful ctype (history ++ [stageOf (deskStep ctype) desktop move])
      (deskStep ctype desktop move).2 := by
  obtain ⟨serving, server, point⟩ := accepting_step accepts
  obtain ⟨request, active, same⟩ := truthful.attended.serving id serving
  have sound := truthful.attended.sound.requests
  have only (other : UInt64) (accepted : Accepted
      (history ++ [stageOf (deskStep ctype) desktop move]) other) :
      Accepted history other ∨ other = id := by
    refine (accepted_concat.mp accepted).imp_right fun ⟨uri', again⟩ => ?_
    exact Option.some.inj ((accepting_step again).1.symm.trans serving)
  refine ⟨truthful.attended.step ctype move, known_step truthful.attended truthful.known move,
    ?_, ?_, ?_, ?_⟩
  · intro other accepted
    rw [server]
    rcases only other accepted with before | rfl
    · exact truthful.passed other before
    · exact same ▸ (lastPassed_of_active sound active).le
  · intro served active' _
    rw [server] at active'
    cases active.symm.trans active'
    rw [point, same]
  · intro other known
    rw [server] at known
    exact accepted_concat.mpr (.inl (truthful.submitted other known))
  · intro other state known final unsubmitted accepted
    rw [server] at known
    rcases only other accepted with before | rfl
    · exact truthful.unsubmitted other state known final unsubmitted before
    · cases (same ▸ stateOf_active sound active).symm.trans known
      cases final

theorem Truthful.onward (truthful : Truthful ctype history desktop)
    (unaccepted : ∀ id uri,
      ¬ AcceptsDial (stageOf (deskStep ctype) desktop move) (.request id) uri) :
    Truthful ctype (history ++ [stageOf (deskStep ctype) desktop move])
      (deskStep ctype desktop move).2 := by
  have sound := truthful.attended.sound.requests
  have accepted_iff (id : UInt64) :
      Accepted (history ++ [stageOf (deskStep ctype) desktop move]) id ↔ Accepted history id :=
    accepted_concat.trans (or_iff_left fun ⟨uri, accepts⟩ => unaccepted id uri accepts)
  refine ⟨truthful.attended.step ctype move, known_step truthful.attended truthful.known move,
    ?_, ?_, ?_, ?_⟩
  · intro id accepted
    have passed := truthful.passed id ((accepted_iff id).mp accepted)
    rcases queue_step truthful.attended.sound ctype move with same | ⟨_, _, -, -, operated⟩
    · rwa [same]
    · exact Nat.le_trans passed (lastPassed_le sound operated)
  · intro request active accepted
    replace accepted := (accepted_iff request.id).mp accepted
    have served : desktop.server.requests.active = some request := by
      rcases queue_step truthful.attended.sound ctype move with same | ⟨_, _, -, -, operated⟩
      · rwa [same] at active
      · refine (active_of_operated operated active).resolve_right fun pending => ?_
        have passed := truthful.passed request.id accepted
        exact absurd passed (Nat.not_le.mpr (lastPassed_lt_of_pending sound pending))
    have point := truthful.served request served accepted
    by_cases gui : move = .gui
    · subst gui
      cases (completing_step truthful.attended point).2.1.symm.trans active
    · rw [point_step (by rw [point]; nofun) gui, point]
  · intro id known
    refine (accepted_iff id).mpr ?_
    rcases queue_step truthful.attended.sound ctype move with
      same | ⟨turn, operation, asked, works, operated⟩
    · exact truthful.submitted id (same ▸ known)
    · cases operated_concludes sound operated known rfl with
      | before known => exact truthful.submitted id known
      | withdrawn pending same unsubmitted => exact absurd rfl unsubmitted
      | completed submitted active same completes ended =>
          subst completes
          obtain ⟨-, point⟩ := completing_of_operation truthful.attended asked works
          cases submitted with
          | false => cases ended
          | true =>
              have answered := truthful.known
              rw [point] at answered
              exact Answered.accepted answered
  · intro id state known final unsubmitted accepted
    replace accepted := (accepted_iff id).mp accepted
    rcases queue_step truthful.attended.sound ctype move with
      same | ⟨turn, operation, asked, works, operated⟩
    · exact truthful.unsubmitted id state (same ▸ known) final unsubmitted accepted
    · cases operated_concludes sound operated known final with
      | before known => exact truthful.unsubmitted id state known final unsubmitted accepted
      | withdrawn pending same =>
          have passed := truthful.passed id accepted
          exact absurd passed (Nat.not_le.mpr (same ▸ lastPassed_lt_of_pending sound pending))
      | completed submitted active same completes ended =>
          subst completes same
          obtain ⟨-, point⟩ := completing_of_operation truthful.attended asked works
          cases point.symm.trans (truthful.served _ active accepted)
          exact unsubmitted ended

theorem Truthful.step (truthful : Truthful ctype history desktop) (move : DeskMove width) :
    Truthful ctype (history ++ [stageOf (deskStep ctype) desktop move])
      (deskStep ctype desktop move).2 := by
  by_cases accepts : ∃ id uri,
      AcceptsDial (stageOf (deskStep ctype) desktop move) (.request id) uri
  · obtain ⟨id, uri, accepts⟩ := accepts
    exact truthful.accept accepts
  · exact truthful.onward fun id uri accepted => accepts ⟨id, uri, accepted⟩

theorem truthful_run (ctype : WideCtype width) (link : Option (WString width))
    (moves : List (DeskMove width)) :
    Truthful ctype (deskRun ctype link moves) (deskEnd ctype link moves) :=
  history_invariant (Truthful ctype) (fun _ => True)
    (fun _ _ move truthful _ => truthful.step move) [] (truthful_initial ctype link)
    fun _ _ => trivial

/-- The dial that the engine accepts, and on whose behalf. -/
def acceptedDial (stage : DeskStage width) : Option (DialSource × Bytes) :=
  match stage.input, stage.before.point, stage.output with
  | .gui, .submitting source _ _ uri, .calls (.submitted true) => some (source, uri)
  | _, _, _ => none

/-- The URI with which the owner of the engine calls `ua_connect`. -/
def connectedUri (stage : DeskStage width) : Option Bytes :=
  match stage.output, stage.before.calls.point with
  | .calls .dials, .dispatching _ _ pending => some pending.destination
  | _, _ => none

theorem connectedUri_within (desktop : VoiceDesktop width) (move : DeskMove width) :
    connectedUri (stageOf (deskStep ctype) desktop move) =
      ((callsPart ctype).within (stageOf (deskStep ctype) desktop move)).bind dialedUri := by
  cases asked : callsAsked ctype desktop move with
  | none =>
      have resting : (callsPart ctype).within (stageOf (deskStep ctype) desktop move) = none :=
        Option.map_eq_none_iff.mpr asked
      rw [resting]
      unfold connectedUri
      split
      · next shown _ =>
          obtain ⟨request, known⟩ := deskStep_calls shown
          cases asked.symm.trans known
      · rfl
  | some request =>
      have moving : (callsPart ctype).within (stageOf (deskStep ctype) desktop move) =
          some (stageOf (callStep ctype) desktop.calls request) :=
        Option.map_eq_some_iff.mpr ⟨request, asked, rfl⟩
      have shown := deskStep_calls_of_asked asked
      rw [moving]
      simp only [connectedUri, stageOf, shown, Option.bind_some, dialedUri]
      cases (callStep ctype desktop.calls request).1 with
      | dials => cases desktop.calls.point <;> rfl
      | nothing | submitted | took | invoked => rfl

/-- The other steps of the engine accept no dial. -/
theorem acceptedUri_none {state : CallEngine width} {move : CallMove width}
    (other : ofOwner move = true ∨ besideDials move = true) :
    acceptedUri (stageOf (callStep ctype) state move) = none := by
  cases move with
  | submit request =>
      have beside : request.action ≠ .dial := by simpa [ofOwner, besideDials] using other
      simp only [acceptedUri, stageOf]
      split
      · next input _ =>
          cases input
          exact if_neg beside
      · rfl
  | ui | begin | beginFails | tick | owner | throws | deliver | ends => rfl

theorem acceptedDial_within (desktop : VoiceDesktop width) (move : DeskMove width) :
    (acceptedDial (stageOf (deskStep ctype) desktop move)).map Prod.snd =
      ((callsPart ctype).within (stageOf (deskStep ctype) desktop move)).bind acceptedUri := by
  have elsewhere (away : move ≠ .gui)
      (others : ∀ request, callsAsked ctype desktop move = some request →
        ofOwner request = true ∨ besideDials request = true) :
      (acceptedDial (stageOf (deskStep ctype) desktop move)).map Prod.snd =
        ((callsPart ctype).within (stageOf (deskStep ctype) desktop move)).bind acceptedUri := by
    have unaccepted : acceptedDial (stageOf (deskStep ctype) desktop move) = none := by
      unfold acceptedDial
      split
      · next gui _ _ => exact absurd gui away
      · rfl
    rw [unaccepted]
    change none = ((callsAsked ctype desktop move).map
      (stageOf (callStep ctype) desktop.calls)).bind acceptedUri
    cases asked : callsAsked ctype desktop move with
    | none => rfl
    | some request => exact (acceptedUri_none (others request asked)).symm
  cases move with
  | worker posted => exact elsewhere (by nofun) fun _ asked => by cases asked
  | owner move =>
      refine elsewhere (by nofun) fun request asked => ?_
      simp only [callsAsked] at asked
      split at asked
      · next own =>
          cases asked
          exact .inl own
      · cases asked
  | message message =>
      refine elsewhere (by nofun) fun request asked => ?_
      cases message with
      | call move =>
          simp only [callsAsked] at asked
          split at asked
          · split at asked
            · next own =>
                cases asked
                exact .inr own
            · cases asked
          · cases asked
      | _ => cases asked
  | gui =>
      change _ = ((dialCall ctype desktop).map
        (stageOf (callStep ctype) desktop.calls)).bind acceptedUri
      cases point : desktop.point with
      | submitting source typed observed uri =>
          have shown : (deskStep ctype desktop .gui).1 =
              .calls (callStep ctype desktop.calls (.submit { action := .dial, uri := uri })).1 := by
            simp only [deskStep, VoiceDesktop.guiStep, point]
          simp only [acceptedDial, acceptedUri, stageOf, dialCall, point, shown, Option.map_some,
            Option.bind_some]
          cases (callStep ctype desktop.calls (.submit { action := .dial, uri := uri })).1 with
          | submitted accepted => cases accepted <;> rfl
          | nothing | took | dials | invoked => rfl
      | idle | refreshing | judging | publishing | rejecting | taking | taken | granting | dialing
      | authorizing | rechecking | recording | completing | linking | asking =>
          simp only [acceptedDial, acceptedUri, stageOf, dialCall, point, Option.map_some, Option.map_none,
            Option.bind_some, Option.bind_none]

/-- The SDK is asked for dials that were accepted, in that order, each once at most. -/
theorem connected_in_order (ctype : WideCtype width) (link : Option (WString width))
    (moves : List (DeskMove width)) :
    ∃ dials : List (DialSource × Bytes),
      dials.Sublist ((deskRun ctype link moves).filterMap acceptedDial) ∧
        dials.map Prod.snd = (deskRun ctype link moves).filterMap connectedUri := by
  have connected : ∀ stage ∈ deskRun ctype link moves,
      connectedUri stage = ((callsPart ctype).within stage).bind dialedUri :=
    stages_forall_of_step _ (fun desktop move => connectedUri_within desktop move) _ moves
  have accepted : ∀ stage ∈ deskRun ctype link moves,
      (acceptedDial stage).map Prod.snd = ((callsPart ctype).within stage).bind acceptedUri :=
    stages_forall_of_step _ (fun desktop move => acceptedDial_within desktop move) _ moves
  have empty : ((callsPart ctype).part (.launched ctype link)).dialsInFlight = [] := rfl
  have order : List.Sublist ((deskRun ctype link moves).filterMap _)
      ((deskRun ctype link moves).filterMap _) :=
    ((dials_convey ctype).within (callsPart ctype)).delivered empty moves
  rw [← List.filterMap_congr connected, ← List.filterMap_congr accepted,
    ← List.map_filterMap] at order
  obtain ⟨dials, sublist, same⟩ := List.sublist_map_iff.mp order
  exact ⟨dials, sublist, same.symm⟩

/-- A request that was dialed is dialed no more. -/
theorem Truthful.unaccepted (truthful : Truthful ctype history desktop) {id : UInt64}
    (accepted : Accepted history id) (uri : Bytes) :
    ¬ AcceptsDial (stageOf (deskStep ctype) desktop move) (.request id) uri := by
  intro accepts
  obtain ⟨request, active, rfl⟩ := truthful.attended.serving id (accepting_step accepts).1
  obtain ⟨-, -, typed, observed, point⟩ := accepts
  cases point.symm.trans (truthful.served request active accepted)

/-- What is over is dialed no more. -/
theorem over_undialed {id : UInt64} {state : VoiceDesktop width}
    (truthful : Truthful ctype history state) (gone : Over id state.server.requests)
    (undialed : ¬ Accepted history id) (moves : List (DeskMove width)) :
    ¬ Accepted (history ++ stages (deskStep ctype) state moves) id := by
  have kept := @history_invariant _ _ _ (deskStep ctype)
    (fun history desktop => Truthful ctype history desktop ∧ Over id desktop.server.requests ∧
      ¬ Accepted history id) (fun _ => True) ?_ history _ ⟨truthful, gone, undialed⟩
      moves fun _ _ => trivial
  · exact kept.2.2
  · intro history desktop move ⟨truthful, gone, undialed⟩ _
    refine ⟨truthful.step move, ?_, fun accepted => ?_⟩
    · rcases queue_step truthful.attended.sound ctype move with same | ⟨_, _, -, -, operated⟩
      · rwa [same]
      · exact gone.operated truthful.attended.sound.requests operated
    · rcases accepted_concat.mp accepted with before | ⟨uri, accepts⟩
      · exact undialed before
      · obtain ⟨request, active, same⟩ :=
          truthful.attended.serving id (accepting_step accepts).1
        exact gone.idle request active same

/-- Normalizing a destination keeps the URI that it is dialed with. -/
theorem dialed_of_normalized {locale : LocaleCtype width} {typed normalized : WString width}
    (valid : validateAddress locale.toWideCtype typed = ⟨.none, normalized⟩)
    {account : SipAccount width} {uri : Bytes}
    (dialed : (nativeCallDestinationResult locale.toWideCtype normalized account).succeeds = true ∧
      (nativeCallDestinationResult locale.toWideCtype normalized account).uri = uri) :
    (nativeCallDestinationResult locale.toWideCtype typed account).succeeds = true ∧
      (nativeCallDestinationResult locale.toWideCtype typed account).uri = uri := by
  rcases normalizing_keeps valid account with ⟨fails, -⟩ | ⟨-, succeeds, same⟩
  · cases fails.symm.trans dialed.1
  · exact ⟨succeeds, same ▸ dialed.2⟩

/-- What a client is told of its request, against what is dialed for it. -/
structure ToldTruly (locale : LocaleCtype width) (link : Option (WString width))
    (moves : List (DeskMove width)) : Prop where
  submitted : ∀ id,
    (deskEnd locale.toWideCtype link moves).server.requests.stateOf id =
      some .submitted → Accepted (deskRun locale.toWideCtype link moves) id
  /-- Rejected and cancelled requests are dialed neither before nor later. -/
  unsubmitted : ∀ id state later,
    (deskEnd locale.toWideCtype link moves).server.requests.stateOf id = some state →
      state.terminal = true → state ≠ .submitted →
        ¬ Accepted (deskRun locale.toWideCtype link (moves ++ later)) id
  /-- The interface's report is accepted and true. -/
  reported : ∀ before stage after id submitted,
    deskRun locale.toWideCtype link moves = before ++ stage :: after →
      stage.input = .gui → stage.before.point = .completing id submitted →
        stage.output = .server (.completed true) ∧ (submitted = true ↔ Accepted before id)
  once : (deskRun locale.toWideCtype link moves).Pairwise fun first second =>
    ∀ id uri other, AcceptsDial first (.request id) uri → ¬ AcceptsDial second (.request id) other
  /-- What is dialed is the URI of the destination that the client sent. -/
  asked : ∀ before stage after id uri,
    deskRun locale.toWideCtype link moves = before ++ stage :: after →
      AcceptsDial stage (.request id) uri → ∃ request, request.id = id ∧ Sent before request ∧
        Serves before request ∧
        (nativeCallDestinationResult locale.toWideCtype request.destination
          stage.before.calls.engine.account).succeeds = true ∧
        (nativeCallDestinationResult locale.toWideCtype request.destination
          stage.before.calls.engine.account).uri = uri
  /-- The SDK is asked for accepted dials only, in their order and each once at most. -/
  connected : ∃ dials : List (DialSource × Bytes),
    dials.Sublist ((deskRun locale.toWideCtype link moves).filterMap acceptedDial) ∧
      dials.map Prod.snd = (deskRun locale.toWideCtype link moves).filterMap connectedUri

theorem requests_told_truly (locale : LocaleCtype width) (link : Option (WString width))
    (moves : List (DeskMove width)) : ToldTruly locale link moves := by
  have truthful := truthful_run locale.toWideCtype link moves
  refine ⟨truthful.submitted, ?_, ?_, ?_, ?_, connected_in_order locale.toWideCtype link moves⟩
  · intro id state later known final unsubmitted
    rw [deskRun, stages_append]
    exact over_undialed truthful (over_of_terminal truthful.attended.sound.requests known final)
      (truthful.unsubmitted id state known final unsubmitted) later
  · intro before stage after id submitted split gui point
    obtain ⟨first, move, rest, rfl, rfl, rfl, -⟩ := stages_split split
    have here := truthful_run locale.toWideCtype link first
    change move = .gui at gui
    change (deskEnd locale.toWideCtype link first).point = _ at point
    subst gui
    refine ⟨(completing_step here.attended point).1, ?_, fun accepted => ?_⟩
    · rintro rfl
      have answered := here.known
      rw [point] at answered
      exact Answered.accepted answered
    · obtain ⟨request, active, rfl⟩ := here.attended.serving id (by rw [point]; rfl)
      cases point.symm.trans (here.served request active accepted)
      rfl
  · have pairs := @history_invariant _ _ _ (deskStep locale.toWideCtype)
      (fun history desktop => Truthful locale.toWideCtype history desktop ∧
        history.Pairwise fun first second => ∀ id uri other,
          AcceptsDial first (.request id) uri → ¬ AcceptsDial second (.request id) other)
      (fun _ => True) ?_ [] _ ⟨truthful_initial _ link, .nil⟩ moves fun _ _ => trivial
    · exact pairs.2
    · intro history desktop move ⟨truthful, pairs⟩ _
      refine ⟨truthful.step move, List.pairwise_append.mpr
        ⟨pairs, List.pairwise_singleton _ _, fun first member second same => ?_⟩⟩
      rw [List.mem_singleton.mp same]
      intro id uri other accepts
      exact truthful.unaccepted ⟨first, member, uri, accepts⟩ other
  · intro before stage after id uri split accepts
    obtain ⟨first, move, rest, rfl, rfl, rfl, -⟩ := stages_split split
    have here := truthful_run locale.toWideCtype link first
    obtain ⟨-, -, typed, observed, point⟩ := accepts
    have known := here.known
    change (deskEnd locale.toWideCtype link first).point = _ at point
    rw [point] at known
    obtain ⟨⟨request, same, serves, valid⟩, destination, normal, succeeds, dialed⟩ := known
    have typedUri := dialed_of_normalized normal ⟨succeeds, dialed⟩
    exact ⟨request, same, sent_of_serves serves, serves, dialed_of_normalized valid typedUri⟩

/-- A client asks for a dial while the account is registered. -/
def dialedRequest : List (DeskMove .utf16) :=
  let deliver (type : BeventEv) : DeskMove .utf16 :=
    .owner (.deliver ⟨type, some ⟨5, 0⟩, fun _ => true⟩ (some 0))
  let tick : List (DeskMove .utf16) := .owner (.tick willing) :: .replicate 4 (.owner (.owner willing))
  [.message (.call (.ui .registering)), .owner (.begin 5 ⟨true, true⟩ 0), deliver .registering,
    deliver .registerOk] ++ tick ++ .message .refresh :: .replicate 3 .gui ++
    [.worker (.post (wideText .utf16 "sip:1000@pbx") []), .worker (.post [] []),
      .message .asyncCti] ++ .replicate 11 .gui ++ tick

example : (deskEnd (.ascii .utf16) none dialedRequest).server.requests.stateOf 1 = some .submitted ∧
    (deskRun (.ascii .utf16) none dialedRequest).filterMap connectedUri =
      [asciiBytes "sip:1000@pbx"] := by
  decide +kernel

end AxeVoice.Desktop
