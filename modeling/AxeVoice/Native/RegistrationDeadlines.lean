import AxeVoice.Native.RegistrationRaces

/-!
# The deadline of a registration

A run remembers its newest successful submission, the deadline that was armed
for it and whether a poll has confirmed it.  What a tick leaves submitted and
unconfirmed has that deadline, and the deadline has not passed.
-/

namespace AxeVoice.Native

open AxeVoice.Sip
open AxeVoice.Foundation

namespace RegistrationDeadline

/-- The time is at or behind the start, and the wait is not over; the times are numbers. -/
structure InTime (deadline : RegistrationDeadline) (monotonicMs : UInt64) : Prop where
  started : deadline.startedMs.toNat ≤ monotonicMs.toNat
  waiting : monotonicMs.toNat - deadline.startedMs.toNat < deadline.maxWaitMs.toNat

/-- The subtraction of the source does not wrap around where it is reached. -/
theorem inTime_iff {deadline : RegistrationDeadline} {monotonicMs : UInt64} :
    deadline.InTime monotonicMs ↔ ¬ monotonicMs < deadline.startedMs ∧
      ¬ monotonicMs - deadline.startedMs ≥ deadline.maxWaitMs := by
  constructor
  · rintro ⟨started, waiting⟩
    have reached : deadline.startedMs ≤ monotonicMs := UInt64.le_iff_toNat_le.mpr started
    refine ⟨UInt64.not_lt.mpr reached, UInt64.not_le.mpr (UInt64.lt_iff_toNat_lt.mpr ?_)⟩
    rw [UInt64.toNat_sub_of_le _ _ reached]
    exact waiting
  · rintro ⟨early, elapsed⟩
    have reached : deadline.startedMs ≤ monotonicMs := UInt64.not_lt.mp early
    have waiting := UInt64.lt_iff_toNat_lt.mp (UInt64.not_le.mp elapsed)
    rw [UInt64.toNat_sub_of_le _ _ reached] at waiting
    exact ⟨UInt64.le_iff_toNat_le.mp reached, waiting⟩

end RegistrationDeadline

/-- A verdict at which the gateway stops. -/
def RegistrationDeadlineVerdict.overdue : RegistrationDeadlineVerdict → Bool
  | .expired | .clockRegressed | .sessionRevoked => true
  | .unarmed | .pending | .callbackConfirmed | .wrongEventLoopThread => false

/-- What a check says of a deadline. -/
inductive RegistrationDeadline.Checked (deadline : RegistrationDeadline)
    (session monotonicMs : UInt64) (confirmed : Bool) : RegistrationDeadlineVerdict → Prop
  | unarmed (unarmed : deadline.armed = false) : Checked deadline session monotonicMs confirmed .unarmed
  | live (armed : deadline.armed = true) (epoch : session = deadline.session) (open_ : session ≠ 0)
      (inTime : deadline.InTime monotonicMs) :
      Checked deadline session monotonicMs confirmed
        (if confirmed then .callbackConfirmed else .pending)
  | overdue {verdict : RegistrationDeadlineVerdict} (armed : deadline.armed = true)
      (elapsed : session ≠ deadline.session ∨ session = 0 ∨ ¬ deadline.InTime monotonicMs)
      (overdue : verdict.overdue = true) : Checked deadline session monotonicMs confirmed verdict

theorem RegistrationDeadline.check_checked (deadline : RegistrationDeadline)
    (session monotonicMs : UInt64) (confirmed : Bool) :
    deadline.Checked session monotonicMs confirmed
      (deadline.check session monotonicMs confirmed) := by
  rw [check]
  cases armed : deadline.armed with
  | false => exact .unarmed armed
  | true =>
      simp only [Bool.not_true, Bool.false_eq_true, if_false]
      split
      · next other =>
          simp only [Bool.or_eq_true, decide_eq_true_eq] at other
          exact .overdue armed (or_assoc.mp (.inl other)) rfl
      next same =>
      simp only [Bool.or_eq_true, decide_eq_true_eq, not_or, ne_eq, not_not] at same
      split
      · next early =>
          exact .overdue armed (.inr (.inr fun inTime => (inTime_iff.mp inTime).1 early)) rfl
      next reached =>
      split
      · next late =>
          exact .overdue armed (.inr (.inr fun inTime => (inTime_iff.mp inTime).2 late)) rfl
      next waiting =>
      have live : deadline.Checked session monotonicMs confirmed
          (if confirmed then .callbackConfirmed else .pending) :=
        .live armed same.1 same.2 (inTime_iff.mpr ⟨reached, waiting⟩)
      split
      · next seen => rwa [if_pos seen] at live
      · next unseen => rwa [if_neg unseen] at live

/-- A successful submission, as the run has watched it. -/
structure WatchedSubmission where
  session : UInt64
  /-- When a deadline was armed for it, and the timeout. -/
  armed : Option (UInt64 × UInt64) := none
  /-- A poll has confirmed it. -/
  confirmed : Bool := false
  deriving DecidableEq, Repr

/-- The time of a poll of the deadline, and its verdict. -/
def polled (stage : RegistrationStage) : Option (UInt64 × RegistrationDeadlineVerdict) :=
  match stage.before.point, stage.input with
  | .deciding frame index _, .owner answers =>
      match frame.batch.commands[index]? with
      | none =>
          some (frame.monotonicMs, (stage.before.gateway.pollRegistrationDeadline frame.monotonicMs
            answers.uaIsregistered).1)
      | some _ => none
  | _, _ => none

/-- The start and the timeout of a deadline that is armed. -/
def arms (stage : RegistrationStage) : Option (UInt64 × UInt64) :=
  match stage.before.point, stage.input with
  | .arming frame _ command .submitted, .owner _ =>
      let maxWaitMs := command.timeoutMs.toUInt64
      if (stage.before.gateway.armRegistrationDeadline frame.monotonicMs maxWaitMs).1 then
        some (frame.monotonicMs, maxWaitMs)
      else none
  | _, _ => none

def confirms (stage : RegistrationStage) : Bool :=
  (polled stage).map Prod.snd = some .callbackConfirmed

def watchStep (newest : Option WatchedSubmission) (stage : RegistrationStage) :
    Option WatchedSubmission :=
  match stage.output with
  | .submitted .submitted => some { session := stage.after.gateway.bridge.session }
  | _ =>
      newest.map fun submission =>
        { submission with
          armed := (arms stage).or submission.armed
          confirmed := submission.confirmed || confirms stage }

/-- The newest successful submission of a history. -/
def newestSubmission (history : List RegistrationStage) : Option WatchedSubmission :=
  history.foldl watchStep none

theorem newestSubmission_concat (history : List RegistrationStage) (stage : RegistrationStage) :
    newestSubmission (history ++ [stage]) = watchStep (newestSubmission history) stage := by
  simp only [newestSubmission, List.foldl_append, List.foldl_cons, List.foldl_nil]

/-- A stage at which the newest submission stays as it is. -/
structure Unwatched (stage : RegistrationStage) : Prop where
  output : stage.output ≠ .submitted .submitted
  unarmed : arms stage = none
  unconfirmed : confirms stage = false

theorem Unwatched.watchStep {stage : RegistrationStage} (unwatched : Unwatched stage)
    (newest : Option WatchedSubmission) : watchStep newest stage = newest := by
  have same : newest.map (fun submission =>
      { submission with
        armed := (arms stage).or submission.armed
        confirmed := submission.confirmed || confirms stage }) = newest := by
    rw [unwatched.unarmed, unwatched.unconfirmed]
    cases newest with
    | none => rfl
    | some submission => simp
  rw [Native.watchStep]
  split
  · next submitted => exact absurd submitted unwatched.output
  · exact same

/-- The gateway has the epoch and the deadline of this submission. -/
structure BaresipSdkRegistrationGateway.Serves (gateway : BaresipSdkRegistrationGateway)
    (submission : WatchedSubmission) : Prop where
  epoch : gateway.bridge.captured = {} ∨ gateway.bridge.captured.mailboxSession = submission.session
  armed : gateway.deadline.armed = true → gateway.deadline.session = submission.session ∧
    submission.armed = some (gateway.deadline.startedMs, gateway.deadline.maxWaitMs)

/-- The deadline is yet to be armed, or a stop comes next. -/
def TickPoint.unguarded : TickPoint → Bool
  | .submitted _ _ _ .submitted | .arming _ _ _ .submitted => true
  | .stopping _ | .unregistering _ => true
  | _ => false

/-- What a point says of the gateway. -/
structure TickPoint.Fits (point : TickPoint) (gateway : BaresipSdkRegistrationGateway) : Prop where
  registering : ∀ frame index command, point = .registering frame index command → gateway.owner = 0
  unregistering : ∀ next, point = .unregistering next → gateway.deadline.armed = false
  invalidating : ∀ outcome, point = .invalidating outcome → gateway.owner = 0

theorem TickPoint.fits_submitted (frame : TickFrame) (index : ℕ) (command : RegistrationCommand)
    (submission : NativeRegistrationSubmission) (gateway : BaresipSdkRegistrationGateway) :
    (TickPoint.submitted frame index command submission).Fits gateway :=
  ⟨nofun, nofun, nofun⟩

/-- What the gateway owns is the newest submission, which is confirmed or has its deadline. -/
structure Watched (history : List RegistrationStage) (host : RegistrationHost) : Prop where
  fits : host.point.Fits host.gateway
  unowned : host.gateway.owner = 0 → host.gateway.deadline.armed = false
  owned : host.gateway.owner ≠ 0 →
    ∃ submission, newestSubmission history = some submission ∧ host.gateway.Serves submission ∧
      (host.gateway.deadline.armed = true ∨ submission.confirmed = true ∨
        host.point.unguarded = true)

theorem watched_initial : Watched [] {} :=
  ⟨⟨nofun, nofun, nofun⟩, fun _ => rfl, fun owner => absurd rfl owner⟩

/-- A step that keeps the gateway's owner and deadline, and at most ends the epoch. -/
theorem Watched.keep {history : List RegistrationStage} {host after : RegistrationHost}
    {stage : RegistrationStage} (watched : Watched history host) (unwatched : Unwatched stage)
    (owner : after.gateway.owner = host.gateway.owner)
    (deadline : after.gateway.deadline = host.gateway.deadline)
    (epoch : host.gateway.owner ≠ 0 →
      after.gateway.bridge.captured = {} ∨ after.gateway.bridge.captured = host.gateway.bridge.captured)
    (fits : after.point.Fits after.gateway)
    (guarded : host.gateway.owner ≠ 0 → host.point.unguarded = true → after.point.unguarded = true) :
    Watched (history ++ [stage]) after := by
  refine ⟨fits, ?_, ?_⟩
  · rw [owner, deadline]
    exact watched.unowned
  · rw [owner, deadline, newestSubmission_concat, unwatched.watchStep]
    intro held
    obtain ⟨submission, newest, serves, covered⟩ := watched.owned held
    refine ⟨submission, newest, ⟨?_, ?_⟩, ?_⟩
    · rcases epoch held with ended | same
      · exact .inl ended
      · rw [same]
        exact serves.epoch
    · rw [deadline]
      exact serves.armed
    · rcases covered with armed | confirmed | unguarded
      · exact .inl armed
      · exact .inr (.inl confirmed)
      · exact .inr (.inr (guarded held unguarded))

namespace BaresipSdkEventAdapter

theorem handling_captured (adapter : BaresipSdkEventAdapter) :
    adapter.Handling fun after => after.captured = {} ∨ after.captured = adapter.captured where
  ignored := .inr rfl
  closed := .inl rfl
  published := fun _ => .inr rfl
  revoked := fun _ => .inl rfl
  flags := by
    intro before after kept same
    rw [same.captured]
    exact kept

/-- A callback begins no epoch. -/
theorem callback_captured (adapter : BaresipSdkEventAdapter) (delivery : Delivery)
    (context : Option ℕ) :
    let after := adapter.callback delivery.type delivery.event context delivery.uaIsregistered
    after.captured = {} ∨ after.captured = adapter.captured := by
  dsimp only
  unfold callback
  split
  · exact .inr rfl
  split
  · exact .inr rfl
  · exact (handling_captured _).onEvent _ _ _ _

end BaresipSdkEventAdapter

theorem unwatched_of_others {host : RegistrationHost} {move : RegistrationMove}
    (others : ∀ answers, move ≠ .owner answers) : Unwatched (stageOf registrationStep host move) := by
  have unpolled : polled (stageOf registrationStep host move) = none := by
    unfold polled
    split
    · next owner => exact absurd owner (others _)
    · rfl
  refine ⟨?_, ?_, ?_⟩
  · unfold stageOf registrationStep
    cases move with
    | owner answers => exact absurd rfl (others answers)
    | begin | tick | stop =>
        dsimp only
        split <;> exact nofun
    | _ => exact nofun
  · unfold arms
    split
    · next owner => exact absurd owner (others _)
    · rfl
  · rw [confirms, unpolled]
    rfl

/-- What the other threads and the native events leave of the owner's things. -/
structure LeftToOwner (host after : RegistrationHost) : Prop where
  owner : after.gateway.owner = host.gateway.owner
  deadline : after.gateway.deadline = host.gateway.deadline
  epoch : after.gateway.bridge.captured = {} ∨
    after.gateway.bridge.captured = host.gateway.bridge.captured
  point : after.point = host.point ∨ host.point = .idle ∧ ∀ gateway, after.point.Fits gateway

theorem beginTick_fits (host : RegistrationHost) (generation monotonicMs : UInt64)
    (selected : Address) (gateway : BaresipSdkRegistrationGateway) :
    (host.beginTick generation monotonicMs selected).2.point.Fits gateway := by
  unfold RegistrationHost.beginTick
  dsimp only
  split
  · exact ⟨nofun, nofun, nofun⟩
  · split <;> exact ⟨nofun, nofun, nofun⟩

theorem leftToOwner_of_others (host : RegistrationHost) {move : RegistrationMove}
    (others : ∀ answers, move ≠ .owner answers) :
    LeftToOwner host (registrationStep host move).2 := by
  have same : LeftToOwner host host := ⟨rfl, rfl, .inr rfl, .inl rfl⟩
  unfold registrationStep
  cases move with
  | owner answers => exact absurd rfl (others answers)
  | begin =>
      dsimp only
      split
      · exact same
      · exact ⟨rfl, rfl, .inr rfl, .inl rfl⟩
  | tick generation monotonicMs selected =>
      dsimp only
      split
      · exact same
      · next idle =>
          exact ⟨rfl, rfl, .inr rfl,
            .inr ⟨not_not.mp idle, beginTick_fits host generation monotonicMs selected⟩⟩
  | stop =>
      dsimp only
      split
      · exact same
      · next idle => exact ⟨rfl, rfl, .inr rfl, .inr ⟨not_not.mp idle, fun _ => ⟨nofun, nofun, nofun⟩⟩⟩
  | deliver delivery context =>
      dsimp only
      split
      · exact ⟨rfl, rfl, host.gateway.bridge.callback_captured delivery context, .inl rfl⟩
      · exact same
  | otherAdapterClaims | otherAdapterReleases =>
      dsimp only
      split
      · exact ⟨rfl, rfl, .inr rfl, .inl rfl⟩
      · exact same
  | submit | cancel | invalidate | strayTick | drainMailbox => exact ⟨rfl, rfl, .inr rfl, .inl rfl⟩

theorem Watched.others {history : List RegistrationStage} {host : RegistrationHost}
    (watched : Watched history host) {move : RegistrationMove}
    (others : ∀ answers, move ≠ .owner answers) :
    Watched (history ++ [stageOf registrationStep host move]) (registrationStep host move).2 := by
  obtain ⟨owner, deadline, epoch, point⟩ := leftToOwner_of_others host others
  refine watched.keep (unwatched_of_others others) owner deadline (fun _ => epoch) ?_ ?_
  · rcases point with same | ⟨-, fits⟩
    · rw [same]
      refine ⟨?_, ?_, ?_⟩
      · rw [owner]
        exact watched.fits.registering
      · rw [deadline]
        exact watched.fits.unregistering
      · rw [owner]
        exact watched.fits.invalidating
    · exact fits _
  · rintro - unguarded
    rcases point with same | ⟨idle, -⟩
    · rw [same]
      exact unguarded
    · rw [idle] at unguarded
      cases unguarded

theorem arms_of_point {host : RegistrationHost} {answers : SdkAnswers}
    (elsewhere : ∀ frame index command, host.point ≠ .arming frame index command .submitted) :
    arms (stageOf registrationStep host (.owner answers)) = none := by
  unfold arms
  split
  · next at_ _ => exact absurd at_ (elsewhere _ _ _)
  · rfl

theorem polled_of_point {host : RegistrationHost} {answers : SdkAnswers}
    (elsewhere : ∀ frame index result, host.point = .deciding frame index result →
      ∃ command, frame.batch.commands[index]? = some command) :
    polled (stageOf registrationStep host (.owner answers)) = none := by
  unfold polled
  split
  · next frame index result answers at_ _ =>
      obtain ⟨command, found⟩ := elsewhere frame index result at_
      rw [found]
  · rfl

theorem unsubmitted_of_point {host : RegistrationHost} {answers : SdkAnswers}
    (elsewhere : ∀ frame index command, host.point ≠ .registering frame index command)
    (submission : NativeRegistrationSubmission) :
    (host.ownerStep answers).1 ≠ .submitted submission := by
  intro output
  have stepped := ownerStep_stepped host answers
  rw [output] at stepped
  generalize (host.ownerStep answers).2 = after at stepped
  cases stepped with
  | registered at_ => exact elsewhere _ _ _ at_

/-- Where the owner neither submits nor arms nor polls. -/
theorem unwatched_of_point {host : RegistrationHost} {answers : SdkAnswers}
    (unsubmitted : (host.ownerStep answers).1 ≠ .submitted .submitted)
    (unarming : ∀ frame index command, host.point ≠ .arming frame index command .submitted)
    (unpolling : ∀ frame index result, host.point = .deciding frame index result →
      ∃ command, frame.batch.commands[index]? = some command) :
    Unwatched (stageOf registrationStep host (.owner answers)) :=
  ⟨unsubmitted, arms_of_point unarming, by rw [confirms, polled_of_point unpolling]; rfl⟩

/-- A check passes the gateway on. -/
theorem Watched.check {history : List RegistrationStage} {host : RegistrationHost}
    {stage : RegistrationStage} (watched : Watched history host) (unwatched : Unwatched stage)
    (batch : RegistrationBatch) (superseded : RegistrationDispatchOutcome) {next : TickPoint}
    (fits : next.Fits host.gateway)
    (guarded : host.point.unguarded = true → next.unguarded = true) :
    Watched (history ++ [stage]) (host.check batch superseded next).2 := by
  refine watched.keep unwatched rfl rfl (fun _ => .inr rfl) ?_ fun _ unguarded => ?_
  · rw [RegistrationHost.check]
    dsimp only
    split
    · exact fits
    · exact ⟨nofun, nofun, nofun⟩
  · rw [RegistrationHost.check]
    dsimp only
    split
    · exact guarded unguarded
    · rfl

theorem poll_fits (host : RegistrationHost) (frame : TickFrame)
    (result : RegistrationDispatchOutcome) (uaIsregistered : Bool)
    (gateway : BaresipSdkRegistrationGateway) :
    (host.poll frame result uaIsregistered).2.point.Fits gateway := by
  unfold RegistrationHost.poll
  dsimp only
  generalize (host.gateway.pollRegistrationDeadline frame.monotonicMs uaIsregistered).1 = verdict
  cases verdict <;> exact ⟨nofun, nofun, nofun⟩

/-- A live epoch is that of the submission. -/
theorem BaresipSdkRegistrationGateway.Serves.session {gateway : BaresipSdkRegistrationGateway}
    {submission : WatchedSubmission} (serves : gateway.Serves submission)
    (active : gateway.bridge.active = true) : gateway.bridge.session = submission.session := by
  rw [BaresipSdkEventAdapter.session, if_pos active]
  rcases serves.epoch with ended | same
  · rw [BaresipSdkEventAdapter.active, ended] at active
    simp [CapturedSession.held] at active
  · exact same

theorem Watched.poll {history : List RegistrationStage} {host : RegistrationHost}
    (watched : Watched history host) (answers : SdkAnswers) {frame : TickFrame} {index : ℕ}
    {result : RegistrationDispatchOutcome} (at_ : host.point = .deciding frame index result)
    (done : frame.batch.commands[index]? = none) :
    Watched (history ++ [stageOf registrationStep host (.owner answers)])
      (host.poll frame result answers.uaIsregistered).2 := by
  have step : host.ownerStep answers = host.poll frame result answers.uaIsregistered := by
    simp only [RegistrationHost.ownerStep, at_, done]
  have output : (stageOf registrationStep host (.owner answers)).output = .nothing :=
    congrArg Prod.fst step
  have judged : confirms (stageOf registrationStep host (.owner answers)) =
      decide ((host.gateway.pollRegistrationDeadline frame.monotonicMs answers.uaIsregistered).1 =
        .callbackConfirmed) := by
    unfold confirms polled stageOf
    simp only [at_, done, Option.map_some, Option.some.injEq]
  have unarmed : arms (stageOf registrationStep host (.owner answers)) = none :=
    arms_of_point (by rw [at_]; exact nofun)
  have fits := poll_fits host frame result answers.uaIsregistered
  by_cases verdict : (host.gateway.pollRegistrationDeadline frame.monotonicMs
      answers.uaIsregistered).1 = .callbackConfirmed
  · have gateway : (host.poll frame result answers.uaIsregistered).2.gateway =
        { host.gateway with deadline := {} } := if_pos verdict
    refine ⟨fits _, fun _ => by rw [gateway], fun owner => ?_⟩
    rw [gateway] at owner ⊢
    obtain ⟨submission, newest, serves, -⟩ := watched.owned owner
    refine ⟨{ submission with confirmed := true }, ?_, ⟨serves.epoch, nofun⟩, .inr (.inl rfl)⟩
    rw [newestSubmission_concat, watchStep, output, newest, unarmed, judged, verdict]
    simp
  · have gateway : (host.poll frame result answers.uaIsregistered).2.gateway = host.gateway :=
      if_neg verdict
    have unwatched : Unwatched (stageOf registrationStep host (.owner answers)) := by
      refine ⟨?_, unarmed, ?_⟩
      · rw [output]
        exact nofun
      · rw [judged]
        exact decide_eq_false verdict
    refine watched.keep unwatched ?_ ?_ (fun _ => .inr ?_) (fits _) fun _ unguarded => ?_
    · rw [gateway]
    · rw [gateway]
    · rw [gateway]
    · rw [at_] at unguarded
      cases unguarded

theorem Watched.enterSubmit {history : List RegistrationStage} {host : RegistrationHost}
    {stage : RegistrationStage} (watched : Watched history host) (unwatched : Unwatched stage)
    (selected : Address) (outcome : StartOutcome) {point : TickPoint}
    (registers : ∀ frame index command, point = .registering frame index command →
      (host.gateway.enterSubmit selected outcome).1 = none)
    (quiet : (∀ next, point ≠ .unregistering next) ∧ ∀ outcome, point ≠ .invalidating outcome)
    (guarded : host.point.unguarded = false) :
    Watched (history ++ [stage])
      { host with gateway := (host.gateway.enterSubmit selected outcome).2, point := point } := by
  obtain ⟨⟨bridge, kept⟩, unanswered⟩ := enterSubmit_cases host.gateway selected outcome
  refine watched.keep unwatched ?_ ?_ (fun owner => .inr ?_) ⟨?_, ?_, ?_⟩ fun _ unguarded => ?_
  · rw [kept]
  · rw [kept]
  · rw [BaresipSdkRegistrationGateway.enterSubmit, if_pos owner]
  · intro frame index command at_
    rw [kept]
    exact (unanswered (registers frame index command at_)).1
  · exact fun next at_ => absurd at_ (quiet.1 next)
  · exact fun outcome at_ => absurd at_ (quiet.2 outcome)
  · rw [guarded] at unguarded
    cases unguarded

theorem leaveSubmit_cases (gateway : BaresipSdkRegistrationGateway) (selected : Address)
    (error : Bool) :
    (gateway.bridge.active = true ∧ gateway.leaveSubmit selected error =
        (.submitted, { gateway with owner := selected, deadline := {} })) ∨
      ∃ submission, submission ≠ .submitted ∧ gateway.leaveSubmit selected error =
        (submission, { gateway with bridge := gateway.bridge.stop }) := by
  rw [BaresipSdkRegistrationGateway.leaveSubmit]
  split
  · exact .inr ⟨.submissionRejected, nofun, rfl⟩
  · split
    · exact .inr ⟨.nativeSessionRevoked, nofun, rfl⟩
    · next live => exact .inl ⟨by simpa using live, rfl⟩

theorem Watched.leaveSubmit {history : List RegistrationStage} {host : RegistrationHost}
    (watched : Watched history host) (answers : SdkAnswers) {frame : TickFrame} {index : ℕ}
    {command : RegistrationCommand} (at_ : host.point = .registering frame index command) :
    Watched (history ++ [stageOf registrationStep host (.owner answers)])
      (host.ownerStep answers).2 := by
  have free : host.gateway.owner = 0 := watched.fits.registering frame index command at_
  have left : host.ownerStep answers =
      (.submitted (host.gateway.leaveSubmit frame.selected answers.registerError).1,
        { host with
          gateway := (host.gateway.leaveSubmit frame.selected answers.registerError).2
          point := .submitted frame index command
            (host.gateway.leaveSubmit frame.selected answers.registerError).1 }) := by
    simp only [RegistrationHost.ownerStep, at_]
  rcases leaveSubmit_cases host.gateway frame.selected answers.registerError with
    ⟨active, accepted⟩ | ⟨submission, unsubmitted, refused⟩
  · rw [accepted] at left
    have watch : watchStep (newestSubmission history)
        (stageOf registrationStep host (.owner answers)) =
          some { session := host.gateway.bridge.session } := by
      simp only [watchStep, stageOf, registrationStep, left]
    rw [left]
    refine ⟨TickPoint.fits_submitted _ _ _ _ _, fun _ => rfl, fun _ => ?_⟩
    refine ⟨_, (newestSubmission_concat _ _).trans watch, ⟨.inr ?_, ?_⟩, .inr (.inr rfl)⟩
    · rw [BaresipSdkEventAdapter.session, if_pos active]
    · intro armed
      cases armed
  · rw [refused] at left
    have unwatched : Unwatched (stageOf registrationStep host (.owner answers)) := by
      refine unwatched_of_point ?_ ?_ ?_
      · rw [left]
        exact fun same => unsubmitted (RegistrationObserved.submitted.inj same)
      · intro frame index command same
        cases at_.symm.trans same
      · intro frame index result same
        cases at_.symm.trans same
    rw [left]
    exact watched.keep unwatched rfl rfl (fun owner => absurd free owner)
      (TickPoint.fits_submitted _ _ _ _ _) fun owner => absurd free owner

theorem BaresipSdkRegistrationGateway.submitted_iff {gateway : BaresipSdkRegistrationGateway} :
    gateway.submitted = true ↔ gateway.owner ≠ 0 ∧ gateway.bridge.active = true := by
  rw [submitted, Bool.and_eq_true, decide_eq_true_eq]

/-- Arming succeeds only for the epoch of a submission that has no deadline yet. -/
theorem armRegistrationDeadline_cases (gateway : BaresipSdkRegistrationGateway)
    (nowMs maxWaitMs : UInt64) :
    (gateway.submitted = true ∧ gateway.deadline.armed = false ∧
      gateway.armRegistrationDeadline nowMs maxWaitMs =
        (true, { gateway with deadline := ⟨true, gateway.bridge.session, nowMs, maxWaitMs⟩ })) ∨
      gateway.armRegistrationDeadline nowMs maxWaitMs = (false, gateway) := by
  rw [BaresipSdkRegistrationGateway.armRegistrationDeadline]
  split
  · exact .inr rfl
  · next submitted =>
      have held : gateway.submitted = true := by simpa using submitted
      rw [RegistrationDeadline.arm, BaresipSdkRegistrationGateway.session, if_pos held]
      dsimp only
      split
      · exact .inr rfl
      · next free =>
          simp only [Bool.or_eq_true, decide_eq_true_eq, not_or, Bool.not_eq_true] at free
          exact .inl ⟨held, free.2, rfl⟩

theorem Watched.arm {history : List RegistrationStage} {host : RegistrationHost}
    (watched : Watched history host) (answers : SdkAnswers) {frame : TickFrame} {index : ℕ}
    {command : RegistrationCommand} (at_ : host.point = .arming frame index command .submitted) :
    Watched (history ++ [stageOf registrationStep host (.owner answers)])
      (host.ownerStep answers).2 := by
  have unconfirmed : confirms (stageOf registrationStep host (.owner answers)) = false := by
    rw [confirms, polled_of_point (by rw [at_]; exact nofun)]
    rfl
  have armed_ : arms (stageOf registrationStep host (.owner answers)) =
      if (host.gateway.armRegistrationDeadline frame.monotonicMs command.timeoutMs.toUInt64).1 then
        some (frame.monotonicMs, command.timeoutMs.toUInt64)
      else none := by
    unfold arms stageOf
    simp only [at_]
  have stepped : host.ownerStep answers =
      (.nothing, { host with
        gateway := (host.gateway.armRegistrationDeadline frame.monotonicMs
          command.timeoutMs.toUInt64).2
        point := if (host.gateway.armRegistrationDeadline frame.monotonicMs
              command.timeoutMs.toUInt64).1 then .armed frame index .submitted
            else .stopping (some ⟨.failed, .submitted⟩) }) := by
    simp only [RegistrationHost.ownerStep, at_, ne_eq, not_true_eq_false, if_false]
  have output : (stageOf registrationStep host (.owner answers)).output = .nothing :=
    congrArg Prod.fst stepped
  rw [stepped]
  rcases armRegistrationDeadline_cases host.gateway frame.monotonicMs command.timeoutMs.toUInt64 with
    ⟨submitted, -, success⟩ | failure
  · rw [success] at armed_ ⊢
    obtain ⟨owner, active⟩ := BaresipSdkRegistrationGateway.submitted_iff.mp submitted
    refine ⟨⟨nofun, nofun, nofun⟩, fun free => absurd free owner, fun _ => ?_⟩
    obtain ⟨submission, newest, serves, -⟩ := watched.owned owner
    refine ⟨{ submission with armed := some (frame.monotonicMs, command.timeoutMs.toUInt64) }, ?_,
      ⟨serves.epoch, fun _ => ⟨serves.session active, rfl⟩⟩, .inl rfl⟩
    rw [newestSubmission_concat, watchStep, output, newest, armed_, unconfirmed]
    simp
  · rw [failure] at armed_ ⊢
    have unwatched : Unwatched (stageOf registrationStep host (.owner answers)) := by
      refine ⟨?_, armed_, unconfirmed⟩
      rw [output]
      exact nofun
    exact watched.keep unwatched rfl rfl (fun _ => .inr rfl) ⟨nofun, nofun, nofun⟩ fun _ _ => rfl

/-- What a stop leaves of the deadline. -/
theorem Watched.stopped {history : List RegistrationStage} {after : RegistrationHost}
    (owner : after.gateway.owner = 0) (deadline : after.gateway.deadline.armed = false)
    (next : Option RegistrationDispatchOutcome) (point : after.point = .afterStop next) :
    Watched history after := by
  refine ⟨⟨?_, ?_, fun _ _ => owner⟩, fun _ => deadline, fun held => absurd owner held⟩
  · intro frame index command at_
    cases next <;> cases point.symm.trans at_
  · exact fun _ _ => deadline

/-- A point from which the owner neither registers, nor arms, nor polls. -/
theorem unwatched_at {host : RegistrationHost} {answers : SdkAnswers} {point : TickPoint}
    (at_ : host.point = point)
    (unregistering : ∀ frame index command, point ≠ .registering frame index command)
    (unarming : ∀ frame index command, point ≠ .arming frame index command .submitted)
    (unpolling : ∀ frame index result, point = .deciding frame index result →
      ∃ command, frame.batch.commands[index]? = some command) :
    Unwatched (stageOf registrationStep host (.owner answers)) := by
  subst at_
  exact unwatched_of_point (unsubmitted_of_point unregistering _) unarming unpolling

theorem guarded_at {host : RegistrationHost} {point next : TickPoint} (at_ : host.point = point)
    (guards : point.unguarded = false) : host.point.unguarded = true → next.unguarded = true := by
  intro unguarded
  rw [at_, guards] at unguarded
  cases unguarded

/-- The owner decides about a command of the batch. -/
theorem Watched.decides {history : List RegistrationStage} {host : RegistrationHost}
    (watched : Watched history host) (answers : SdkAnswers) {frame : TickFrame} {index : ℕ}
    {result : RegistrationDispatchOutcome} {command : RegistrationCommand}
    (at_ : host.point = .deciding frame index result)
    (found : frame.batch.commands[index]? = some command) :
    Watched (history ++ [stageOf registrationStep host (.owner answers)])
      (host.ownerStep answers).2 := by
  have unpolling : ∀ other position outcome,
      TickPoint.deciding frame index result = .deciding other position outcome →
        ∃ command, other.batch.commands[position]? = some command := by
    intro other position outcome same
    cases same
    exact ⟨command, found⟩
  have silent : Unwatched (stageOf registrationStep host (.owner answers)) :=
    unwatched_at at_ nofun nofun unpolling
  simp only [RegistrationHost.ownerStep, at_, found, RegistrationHost.decideCommand]
  split
  · exact watched.keep silent rfl rfl (fun _ => .inr rfl) ⟨nofun, nofun, nofun⟩ fun _ _ => rfl
  split
  · exact watched.keep silent rfl rfl (fun _ => .inr rfl) ⟨nofun, nofun, nofun⟩ fun _ _ => rfl
  · exact watched.check silent frame.batch _ ⟨nofun, nofun, nofun⟩ (guarded_at at_ rfl)

/-- The owner enters the submission of a command. -/
theorem Watched.submits {history : List RegistrationStage} {host : RegistrationHost}
    (watched : Watched history host) (answers : SdkAnswers) {frame : TickFrame} {index : ℕ}
    {command : RegistrationCommand} (at_ : host.point = .submitting frame index command) :
    Watched (history ++ [stageOf registrationStep host (.owner answers)])
      (host.ownerStep answers).2 := by
  have silent : Unwatched (stageOf registrationStep host (.owner answers)) :=
    unwatched_at at_ nofun nofun nofun
  simp only [RegistrationHost.ownerStep, at_]
  refine watched.enterSubmit silent frame.selected answers.start ?_ ?_ (by rw [at_]; rfl)
  · intro other position command same
    cases answer : (host.gateway.enterSubmit frame.selected answers.start).1 with
    | none => rfl
    | some submission =>
        rw [answer] at same
        cases same
  · cases (host.gateway.enterSubmit frame.selected answers.start).1 <;> exact ⟨nofun, nofun⟩

/-- A submission that was not accepted arms nothing. -/
theorem Watched.unarmed {history : List RegistrationStage} {host : RegistrationHost}
    (watched : Watched history host) (answers : SdkAnswers) {frame : TickFrame} {index : ℕ}
    {command : RegistrationCommand} {submission : NativeRegistrationSubmission}
    (at_ : host.point = .arming frame index command submission)
    (refused : submission ≠ .submitted) :
    Watched (history ++ [stageOf registrationStep host (.owner answers)])
      (host.ownerStep answers).2 := by
  have unarming : ∀ other position command', TickPoint.arming frame index command submission ≠
      .arming other position command' .submitted := by
    intro other position command' same
    cases same
    exact refused rfl
  have silent : Unwatched (stageOf registrationStep host (.owner answers)) :=
    unwatched_at at_ nofun unarming nofun
  simp only [RegistrationHost.ownerStep, at_, ne_eq, refused, not_false_eq_true, if_true]
  exact watched.keep silent rfl rfl (fun _ => .inr rfl) ⟨nofun, nofun, nofun⟩ fun _ _ => rfl

/-- The owner stops, and calls the SDK for it where it has to. -/
theorem Watched.stops {history : List RegistrationStage} {host : RegistrationHost}
    (watched : Watched history host) (answers : SdkAnswers)
    {next : Option RegistrationDispatchOutcome} (at_ : host.point = .stopping next) :
    Watched (history ++ [stageOf registrationStep host (.owner answers)])
      (host.ownerStep answers).2 := by
  have silent : Unwatched (stageOf registrationStep host (.owner answers)) :=
    unwatched_at at_ nofun nofun nofun
  simp only [RegistrationHost.ownerStep, at_]
  split
  · refine ⟨⟨nofun, fun _ _ => rfl, nofun⟩, fun _ => rfl, fun owner => ?_⟩
    obtain ⟨submission, newest, serves, -⟩ := watched.owned owner
    refine ⟨submission, ?_, ⟨serves.epoch, nofun⟩, .inr (.inr rfl)⟩
    rw [newestSubmission_concat, silent.watchStep]
    exact newest
  · exact .stopped rfl rfl next (by cases next <;> rfl)

theorem Watched.ownerStep {history : List RegistrationStage} {host : RegistrationHost}
    (watched : Watched history host) (answers : SdkAnswers) :
    Watched (history ++ [stageOf registrationStep host (.owner answers)])
      (host.ownerStep answers).2 := by
  cases at_ : host.point with
  | idle =>
      have silent : Unwatched (stageOf registrationStep host (.owner answers)) :=
        unwatched_at at_ nofun nofun nofun
      simp only [RegistrationHost.ownerStep, at_]
      exact watched.keep silent rfl rfl (fun _ => .inr rfl) watched.fits fun _ => id
  | deciding frame index result =>
      cases found : frame.batch.commands[index]? with
      | none =>
          have polls := watched.poll answers at_ found
          simp only [RegistrationHost.ownerStep, at_, found]
          exact polls
      | some command => exact watched.decides answers at_ found
  | submitting frame index command => exact watched.submits answers at_
  | registering frame index command => exact watched.leaveSubmit answers at_
  | submitted frame index command submission =>
      have silent : Unwatched (stageOf registrationStep host (.owner answers)) :=
        unwatched_at at_ nofun nofun nofun
      simp only [RegistrationHost.ownerStep, at_]
      refine watched.check silent frame.batch _ ⟨nofun, nofun, nofun⟩ fun unguarded => ?_
      rw [at_] at unguarded
      cases submission <;> first | rfl | cases unguarded
  | arming frame index command submission =>
      by_cases accepted : submission = .submitted
      · subst accepted
        exact watched.arm answers at_
      · exact watched.unarmed answers at_ accepted
  | armed frame index submission =>
      have silent : Unwatched (stageOf registrationStep host (.owner answers)) :=
        unwatched_at at_ nofun nofun nofun
      simp only [RegistrationHost.ownerStep, at_]
      exact watched.check silent frame.batch _ ⟨nofun, nofun, nofun⟩ (guarded_at at_ rfl)
  | stopping next => exact watched.stops answers at_
  | unregistering next =>
      have unarmed := watched.fits.unregistering next at_
      simp only [RegistrationHost.ownerStep, at_]
      exact .stopped rfl unarmed next (by cases next <;> rfl)
  | invalidating outcome | returning outcome =>
      have silent : Unwatched (stageOf registrationStep host (.owner answers)) :=
        unwatched_at at_ nofun nofun nofun
      simp only [RegistrationHost.ownerStep, at_]
      exact watched.keep silent rfl rfl (fun _ => .inr rfl) ⟨nofun, nofun, nofun⟩
        (fun _ => guarded_at at_ rfl)

theorem Watched.step {history : List RegistrationStage} {host : RegistrationHost}
    (watched : Watched history host) (move : RegistrationMove) :
    Watched (history ++ [stageOf registrationStep host move]) (registrationStep host move).2 := by
  by_cases owner : ∃ answers, move = .owner answers
  · obtain ⟨answers, rfl⟩ := owner
    exact watched.ownerStep answers
  · exact watched.others fun answers same => owner ⟨answers, same⟩

theorem run_watched (inputs : List RegistrationMove) :
    Watched (stages registrationStep {} inputs) (finalState registrationStep {} inputs) := by
  have everywhere : ∀ stage ∈ stages registrationStep {} inputs, True := fun _ _ => trivial
  exact history_invariant Watched (fun _ => True)
    (fun _ _ move known _ => Watched.step known move) [] watched_initial everywhere

/-! ## A tick -/

/-- The armed deadline is exceeded, or the clock stands before its start, or its epoch is revoked. -/
structure BaresipSdkRegistrationGateway.Overdue (gateway : BaresipSdkRegistrationGateway)
    (monotonicMs : UInt64) : Prop where
  armed : gateway.deadline.armed = true
  elapsed : gateway.deadline.maxWaitMs.toNat ≤
      monotonicMs.toNat - gateway.deadline.startedMs.toNat ∨
    monotonicMs.toNat < gateway.deadline.startedMs.toNat ∨ gateway.bridge.active = false

theorem session_active {adapter : BaresipSdkEventAdapter} (open_ : adapter.session ≠ 0) :
    adapter.active = true := by
  by_contra inactive
  rw [BaresipSdkEventAdapter.session, if_neg inactive] at open_
  exact open_ rfl

theorem poll_checked (gateway : BaresipSdkRegistrationGateway) (monotonicMs : UInt64)
    (uaIsregistered : Bool) :
    gateway.deadline.Checked gateway.bridge.session monotonicMs
      (gateway.bridge.nativeRegisterOkSeen uaIsregistered)
      (gateway.pollRegistrationDeadline monotonicMs uaIsregistered).1 :=
  gateway.deadline.check_checked _ _ _

theorem BaresipSdkRegistrationGateway.Overdue.verdict {gateway : BaresipSdkRegistrationGateway}
    {monotonicMs : UInt64} (overdue : gateway.Overdue monotonicMs) (uaIsregistered : Bool) :
    (gateway.pollRegistrationDeadline monotonicMs uaIsregistered).1.overdue = true := by
  have checked := poll_checked gateway monotonicMs uaIsregistered
  generalize (gateway.pollRegistrationDeadline monotonicMs uaIsregistered).1 = verdict at checked
  cases checked with
  | unarmed unarmed => cases unarmed.symm.trans overdue.armed
  | live armed epoch open_ inTime =>
      rcases overdue.elapsed with exceeded | early | inactive
      · exact absurd inTime.waiting (Nat.not_lt.mpr exceeded)
      · exact absurd inTime.started (Nat.not_le.mpr early)
      · cases inactive.symm.trans (session_active open_)
  | overdue armed elapsed overdue => exact overdue

/-- A tick at this time is on its way. -/
structure Judging (generation monotonicMs : UInt64) (history : List RegistrationStage)
    (host : RegistrationHost) : Prop where
  watched : Watched history host
  ticking : host.point.ticking = true
  framed : ∀ frame, host.point.frame? = some frame → frame.monotonicMs = monotonicMs
  begun : host.point = .returning (.of .staleGeneration) ∨ generation ≤ host.queue.lastGeneration
  returning : ∀ outcome, host.point = .returning outcome → outcome.kind ≠ .staleGeneration →
    host.gateway.deadline.armed = true → host.gateway.deadline.InTime monotonicMs

theorem ownerStep_returning {host : RegistrationHost} {answers : SdkAnswers}
    {outcome : RegistrationDispatchOutcome}
    (returning : (host.ownerStep answers).2.point = .returning outcome) :
    (∃ frame index result, host.point = .deciding frame index result ∧
        frame.batch.commands[index]? = none) ∨ host.point = .invalidating outcome := by
  have check {batch : RegistrationBatch} {superseded : RegistrationDispatchOutcome}
      {next : TickPoint} (elsewhere : next ≠ .returning outcome) :
      (host.check batch superseded next).2.point ≠ .returning outcome := by
    rw [RegistrationHost.check]
    dsimp only
    split
    · exact elsewhere
    · exact nofun
  cases at_ : host.point with
  | deciding frame index result =>
      cases found : frame.batch.commands[index]? with
      | none => exact .inl ⟨frame, index, result, rfl, found⟩
      | some command =>
          simp only [RegistrationHost.ownerStep, at_, found, RegistrationHost.decideCommand] at returning
          split at returning
          · cases returning
          split at returning
          · cases returning
          · exact absurd returning (check nofun)
  | submitting frame index command =>
      simp only [RegistrationHost.ownerStep, at_] at returning
      split at returning <;> cases returning
  | submitted frame index command submission | armed frame index submission =>
      simp only [RegistrationHost.ownerStep, at_] at returning
      exact absurd returning (check nofun)
  | arming frame index command submission =>
      simp only [RegistrationHost.ownerStep, at_] at returning
      split at returning
      · cases returning
      · dsimp only at returning
        split at returning <;> cases returning
  | stopping next =>
      simp only [RegistrationHost.ownerStep, at_] at returning
      split at returning
      · cases returning
      · cases next <;> cases returning
  | unregistering next =>
      simp only [RegistrationHost.ownerStep, at_] at returning
      cases next <;> cases returning
  | invalidating other =>
      simp only [RegistrationHost.ownerStep, at_] at returning
      cases returning
      exact .inr rfl
  | idle | registering | returning =>
      simp only [RegistrationHost.ownerStep, at_] at returning
      cases returning

/-- A poll that lets the tick return has found the deadline in time. -/
theorem poll_returning {host : RegistrationHost} {frame : TickFrame}
    {result outcome : RegistrationDispatchOutcome} {uaIsregistered : Bool}
    (returning : (host.poll frame result uaIsregistered).2.point = .returning outcome)
    (armed : (host.poll frame result uaIsregistered).2.gateway.deadline.armed = true) :
    (host.poll frame result uaIsregistered).2.gateway.deadline.InTime frame.monotonicMs := by
  have checked := poll_checked host.gateway frame.monotonicMs uaIsregistered
  unfold RegistrationHost.poll BaresipSdkRegistrationGateway.pollRegistrationDeadline at *
  dsimp only at *
  generalize host.gateway.deadline.check host.gateway.bridge.session frame.monotonicMs
    (host.gateway.bridge.nativeRegisterOkSeen uaIsregistered) = verdict at *
  cases checked with
  | unarmed unarmed => cases unarmed.symm.trans armed
  | live held epoch open_ inTime =>
      cases seen : host.gateway.bridge.nativeRegisterOkSeen uaIsregistered with
      | true => simp [seen] at armed
      | false => exact inTime
  | overdue held elapsed overdue =>
      cases verdict with
      | expired | clockRegressed | sessionRevoked => cases returning
      | _ => cases overdue

theorem Judging.step {generation monotonicMs : UInt64} {history : List RegistrationStage}
    {host : RegistrationHost} (judging : Judging generation monotonicMs history host)
    (move : RegistrationMove) (within : WithinTick (stageOf registrationStep host move)) :
    Judging generation monotonicMs (history ++ [stageOf registrationStep host move])
      (registrationStep host move).2 := by
  have busy := TickPoint.ne_idle judging.ticking
  have stepped := registrationStep_stepped host move
  have keeps := stepped_keeps stepped busy
  by_cases owner : ∃ answers, move = .owner answers
  · obtain ⟨answers, rfl⟩ := owner
    have owners : OwnerStepped host (host.ownerStep answers).1 (host.ownerStep answers).2 :=
      ownerStep_stepped host answers
    refine ⟨judging.watched.step _, ownerStepped_ticking owners judging.ticking within.2,
      fun frame framed => judging.framed frame (ownerStepped_frame owners frame framed), ?_, ?_⟩
    · rw [keeps.lastGeneration]
      refine .inr (judging.begun.resolve_left fun at_ => ?_)
      apply within.2 (.of .staleGeneration)
      simp only [stageOf, registrationStep, RegistrationHost.ownerStep, at_]
    · intro outcome returning fresh armed
      rcases ownerStep_returning returning with ⟨frame, index, result, at_, done⟩ | invalidating
      · have step : host.ownerStep answers = host.poll frame result answers.uaIsregistered := by
          simp only [RegistrationHost.ownerStep, at_, done]
        have time := judging.framed frame (by rw [at_]; rfl)
        simp only [registrationStep, step] at returning armed ⊢
        rw [← time]
        exact poll_returning returning armed
      · have free := judging.watched.fits.invalidating outcome invalidating
        have unarmed := judging.watched.unowned free
        simp only [registrationStep, RegistrationHost.ownerStep, invalidating] at armed
        cases unarmed.symm.trans armed
  · have others : ∀ answers, move ≠ .owner answers := fun answers same => owner ⟨answers, same⟩
    obtain ⟨-, deadline, -, point⟩ := leftToOwner_of_others host others
    have same := point.resolve_right fun idle => busy idle.1
    refine ⟨judging.watched.step _, ?_, ?_, ?_, ?_⟩
    · rw [same]
      exact judging.ticking
    · rw [same]
      exact judging.framed
    · rw [same, keeps.lastGeneration]
      exact judging.begun
    · rw [same, deadline]
      exact judging.returning

/-- Where a drain leaves the tick. -/
theorem beginTick_cases {host : RegistrationHost} (sound : host.queue.Sound)
    (generation monotonicMs : UInt64) (selected : Address) :
    let after := (host.beginTick generation monotonicMs selected).2
    after.gateway = host.gateway ∧ (after.point = .returning (.of .staleGeneration) ∨
      generation ≤ after.queue.lastGeneration ∧
        (after.point = .stopping (some (.of .overflowStopped)) ∨
          ∃ frame, after.point = .deciding frame 0 {} ∧ frame.monotonicMs = monotonicMs)) := by
  have keeps := host.queue.drain_keeps generation
  have taken := RegistrationCommandQueue.drain_drained sound generation
  unfold RegistrationHost.beginTick
  dsimp only
  refine ⟨rfl, ?_⟩
  split
  · exact .inl rfl
  · next current =>
      simp only [Bool.or_eq_true, decide_eq_true_eq, not_or, not_not] at current
      have begun : generation ≤ (host.queue.drain generation).2.lastGeneration := by
        rw [keeps.lastGeneration]
        rcases taken.generation_eq with none_ | same
        · exact absurd (current.1.symm.trans none_) current.2
        · rw [← current.1, same]
          exact sound.last
      refine .inr ⟨begun, ?_⟩
      split
      · exact .inl rfl
      · exact .inr ⟨_, rfl, rfl⟩

theorem idle_of_drained {host : RegistrationHost} {generation monotonicMs : UInt64}
    {selected : Address} {batch : RegistrationBatch}
    (drained : (registrationStep host (.tick generation monotonicMs selected)).1 = .drained batch) :
    (registrationStep host (.tick generation monotonicMs selected)) =
      host.beginTick generation monotonicMs selected := by
  unfold registrationStep at drained ⊢
  dsimp only at drained ⊢
  split
  · next busy =>
      rw [if_pos busy] at drained
      cases drained
  · rfl

/-- A tick begins to judge with its drain. -/
theorem Judging.begin {history : List RegistrationStage} {host : RegistrationHost}
    (watched : Watched history host) (sound : host.queue.Sound) {generation monotonicMs : UInt64}
    {selected : Address} {batch : RegistrationBatch}
    (drained : (registrationStep host (.tick generation monotonicMs selected)).1 = .drained batch) :
    Judging generation monotonicMs
      (history ++ [stageOf registrationStep host (.tick generation monotonicMs selected)])
      (registrationStep host (.tick generation monotonicMs selected)).2 := by
  have stepped := watched.step (.tick generation monotonicMs selected)
  have ticking := registrationStep_ticking sound drained
  rw [idle_of_drained drained] at ticking stepped ⊢
  obtain ⟨gateway, at_ | ⟨begun, at_ | ⟨frame, at_, time⟩⟩⟩ :=
    beginTick_cases sound generation monotonicMs selected
  · refine ⟨stepped, ticking.ticking, ?_, .inl at_, ?_⟩
    · rw [at_]
      exact nofun
    · rw [at_]
      intro outcome returning fresh
      cases returning
      exact absurd rfl fresh
  · refine ⟨stepped, ticking.ticking, ?_, .inr begun, ?_⟩
    · rw [at_]
      exact nofun
    · rw [at_]
      exact nofun
  · refine ⟨stepped, ticking.ticking, ?_, .inr begun, ?_⟩
    · rw [at_]
      intro other framed
      cases framed
      exact time
    · rw [at_]
      exact nofun

/-! ## A tick that finds the deadline overdue -/

/-- A tick that comes to stop the gateway. -/
inductive Doomed (monotonicMs : UInt64) (host : RegistrationHost) : Prop
  | stale (at_ : host.point = .returning (.of .staleGeneration))
  | late {frame : TickFrame} (framed : host.point.frame? = some frame)
      (overdue : host.gateway.Overdue monotonicMs)
  | leaving {outcome : RegistrationDispatchOutcome} (leaving : Leaving outcome host)

/-- Nothing that the gateway is asked to do helps an armed deadline. -/
theorem Doomed.late_ownerStep {generation monotonicMs : UInt64} {history : List RegistrationStage}
    {host : RegistrationHost} (judging : Judging generation monotonicMs history host)
    {frame : TickFrame} (framed : host.point.frame? = some frame)
    (overdue : host.gateway.Overdue monotonicMs) (answers : SdkAnswers) :
    Doomed monotonicMs (host.ownerStep answers).2 := by
  have owner : host.gateway.owner ≠ 0 := by
    intro free
    have unarmed := judging.watched.unowned free
    cases unarmed.symm.trans overdue.armed
  have check {batch : RegistrationBatch} {superseded : RegistrationDispatchOutcome}
      {next : TickPoint} (frames : ∃ frame, next.frame? = some frame) :
      Doomed monotonicMs (host.check batch superseded next).2 := by
    obtain ⟨frame, frames⟩ := frames
    rw [RegistrationHost.check]
    dsimp only
    split
    · exact .late frames overdue
    · exact .leaving (.stopping rfl)
  cases at_ : host.point with
  | deciding frame index result =>
      cases found : frame.batch.commands[index]? with
      | none =>
          have time := judging.framed frame (by rw [at_]; rfl)
          have verdict := overdue.verdict answers.uaIsregistered
          simp only [RegistrationHost.ownerStep, at_, found, RegistrationHost.poll, time]
          cases said : (host.gateway.pollRegistrationDeadline monotonicMs
              answers.uaIsregistered).1 with
          | expired | clockRegressed | sessionRevoked => exact .leaving (.stopping rfl)
          | unarmed | pending | callbackConfirmed | wrongEventLoopThread =>
              rw [said] at verdict
              cases verdict
      | some command =>
          simp only [RegistrationHost.ownerStep, at_, found, RegistrationHost.decideCommand]
          split
          · exact .leaving (.stopping rfl)
          split
          · exact .leaving (.stopping rfl)
          · exact check ⟨frame, rfl⟩
  | submitting frame index command =>
      simp only [RegistrationHost.ownerStep, at_, BaresipSdkRegistrationGateway.enterSubmit, ne_eq,
        owner, not_false_eq_true, if_true]
      exact .late rfl overdue
  | registering frame index command =>
      exact absurd (judging.watched.fits.registering frame index command at_) owner
  | submitted frame index command submission | armed frame index submission =>
      simp only [RegistrationHost.ownerStep, at_]
      exact check ⟨frame, rfl⟩
  | arming frame index command submission =>
      simp only [RegistrationHost.ownerStep, at_]
      split
      · exact .leaving (.stopping rfl)
      · rcases armRegistrationDeadline_cases host.gateway frame.monotonicMs
            command.timeoutMs.toUInt64 with ⟨-, unarmed, -⟩ | refused
        · cases unarmed.symm.trans overdue.armed
        · rw [refused]
          exact .leaving (.stopping rfl)
  | idle | stopping | unregistering | invalidating | returning =>
      rw [at_] at framed
      cases framed

/-- Away from the native calls, no other step reaches the epoch. -/
theorem others_active {host : RegistrationHost} {move : RegistrationMove}
    (others : ∀ answers, move ≠ .owner answers) (deaf : host.listening = false) :
    (registrationStep host move).2.gateway.bridge.active = host.gateway.bridge.active := by
  unfold registrationStep
  cases move with
  | owner answers => exact absurd rfl (others answers)
  | begin | tick | stop | otherAdapterClaims | otherAdapterReleases =>
      dsimp only
      split <;> rfl
  | deliver delivery context =>
      dsimp only
      rw [deaf]
      rfl
  | submit | cancel | invalidate | strayTick | drainMailbox => rfl

theorem Doomed.step {generation monotonicMs : UInt64} {history : List RegistrationStage}
    {host : RegistrationHost} (doomed : Doomed monotonicMs host)
    (judging : Judging generation monotonicMs history host) (move : RegistrationMove)
    (within : WithinTick (stageOf registrationStep host move)) :
    Doomed monotonicMs (registrationStep host move).2 := by
  have busy := TickPoint.ne_idle judging.ticking
  cases doomed with
  | leaving leaving => exact .leaving (leaving.step (registrationStep_stepped host move) within.2)
  | stale at_ =>
      by_cases owner : ∃ answers, move = .owner answers
      · obtain ⟨answers, rfl⟩ := owner
        refine absurd ?_ (within.2 (.of .staleGeneration))
        simp only [stageOf, registrationStep, RegistrationHost.ownerStep, at_]
      · have left := leftToOwner_of_others host fun answers same => owner ⟨answers, same⟩
        exact .stale ((left.point.resolve_right fun idle => busy idle.1).trans at_)
  | late framed overdue =>
      by_cases owner : ∃ answers, move = .owner answers
      · obtain ⟨answers, rfl⟩ := owner
        exact late_ownerStep judging framed overdue answers
      · have others : ∀ answers, move ≠ .owner answers := fun answers same => owner ⟨answers, same⟩
        obtain ⟨-, deadline, -, point⟩ := leftToOwner_of_others host others
        have same := point.resolve_right fun idle => busy idle.1
        have deaf : host.listening = false := by
          unfold RegistrationHost.listening
          split
          · next at_ => exact absurd at_ busy
          · next frame index command at_ =>
              have free := judging.watched.fits.registering frame index command at_
              have unarmed := judging.watched.unowned free
              cases unarmed.symm.trans overdue.armed
          · next next at_ =>
              rw [at_] at framed
              cases framed
          · rfl
        refine .late (same ▸ framed) ⟨?_, ?_⟩
        · rw [deadline]
          exact overdue.armed
        · rw [deadline, others_active others deaf]
          exact overdue.elapsed

/-- A tick that begins with an overdue deadline. -/
theorem Doomed.begin {host : RegistrationHost} (sound : host.queue.Sound)
    {generation monotonicMs : UInt64} {selected : Address} {batch : RegistrationBatch}
    (overdue : host.gateway.Overdue monotonicMs)
    (drained : (registrationStep host (.tick generation monotonicMs selected)).1 = .drained batch) :
    Doomed monotonicMs (registrationStep host (.tick generation monotonicMs selected)).2 := by
  rw [idle_of_drained drained]
  obtain ⟨gateway, at_ | ⟨-, at_ | ⟨frame, at_, -⟩⟩⟩ :=
    beginTick_cases sound generation monotonicMs selected
  · exact .stale at_
  · exact .leaving (.stopping at_)
  · refine .late (congrArg TickPoint.frame? at_) ?_
    rw [gateway]
    exact overdue

/-- A poll that finds the deadline overdue. -/
theorem Doomed.polled {host : RegistrationHost} {move : RegistrationMove}
    {monotonicMs time : UInt64} {verdict : RegistrationDeadlineVerdict}
    (poll : polled (stageOf registrationStep host move) = some (time, verdict))
    (overdue : verdict.overdue = true) : Doomed monotonicMs (registrationStep host move).2 := by
  unfold Native.polled stageOf at poll
  dsimp only at poll
  split at poll
  · next frame index result answers at_ =>
      split at poll
      · next done =>
          obtain ⟨-, said⟩ := Prod.mk.inj (Option.some.inj poll)
          simp only [registrationStep, RegistrationHost.ownerStep, at_, done, RegistrationHost.poll,
            said]
          cases verdict with
          | expired | clockRegressed | sessionRevoked => exact .leaving (.stopping rfl)
          | _ => cases overdue
      · cases poll
  · cases poll

/-- The stages of one tick of a run: its drain, what is done meanwhile, and its return. -/
structure RanTick (run before : List RegistrationStage) (drain : RegistrationStage)
    (during : List RegistrationStage) (return_ : RegistrationStage) (after : List RegistrationStage)
    (generation monotonicMs : UInt64) (outcome : RegistrationDispatchOutcome) : Prop where
  split : run = before ++ drain :: (during ++ return_ :: after)
  begins : ∃ selected, drain.input = .tick generation monotonicMs selected
  drained : ∃ batch, drain.output = .drained batch
  within : ∀ stage ∈ during, WithinTick stage
  returned : return_.output = .returned outcome

/-- What is submitted is the newest submission; unless a poll has confirmed it, the deadline that
was armed for it is armed still, and has not passed. -/
def MeetsDeadline (monotonicMs : UInt64) (history : List RegistrationStage)
    (gateway : BaresipSdkRegistrationGateway) : Prop :=
  gateway.submitted = true → ∃ submission, newestSubmission history = some submission ∧
    gateway.bridge.session = submission.session ∧
      (submission.confirmed = false →
        gateway.deadline.armed = true ∧ gateway.deadline.session = submission.session ∧
          submission.armed = some (gateway.deadline.startedMs, gateway.deadline.maxWaitMs) ∧
            gateway.deadline.InTime monotonicMs)

/-- The gateway is stopped, and the generation accepts nothing any more. -/
structure ClosedReturn (generation : UInt64) (host : RegistrationHost)
    (later : List RegistrationStage) : Prop where
  stopped : GatewayStopped host.gateway
  unsubmitted : host.gateway.submitted = false
  inactive : host.gateway.bridge.active = false
  unarmed : host.gateway.deadline.armed = false
  closed : host.queue.Closed generation
  refuses : ∀ stage ∈ later, ∀ answer command, stage.output = .enqueued answer command →
    command.generation = generation → answer = .refused

/-- The tick begins with an overdue deadline, or its poll finds the deadline overdue. -/
def FindsOverdue (drain : RegistrationStage) (during : List RegistrationStage)
    (monotonicMs : UInt64) : Prop :=
  drain.before.gateway.Overdue monotonicMs ∨
    ∃ stage ∈ during, ∃ time verdict, polled stage = some (time, verdict) ∧ verdict.overdue = true

structure DeadlinesKept (run : List RegistrationStage) : Prop where
  meets : ∀ {before drain during return_ after generation monotonicMs outcome},
    RanTick run before drain during return_ after generation monotonicMs outcome →
      outcome.kind ≠ .staleGeneration →
        MeetsDeadline monotonicMs (before ++ drain :: (during ++ [return_])) return_.after.gateway
  closes : ∀ {before drain during return_ after generation monotonicMs outcome},
    RanTick run before drain during return_ after generation monotonicMs outcome →
      outcome.kind ≠ .staleGeneration → FindsOverdue drain during monotonicMs →
        ClosedReturn generation return_.after after
  /-- The deadline that a poll goes by was armed for the submission that it judges. -/
  judges : ∀ {before stage after}, run = before ++ stage :: after → polled stage ≠ none →
    stage.before.gateway.deadline.armed = true →
      ∃ submission, newestSubmission before = some submission ∧
        stage.before.gateway.deadline.session = submission.session ∧
        submission.armed = some (stage.before.gateway.deadline.startedMs,
          stage.before.gateway.deadline.maxWaitMs) ∧
        (stage.before.gateway.bridge.active = true →
          stage.before.gateway.bridge.session = submission.session)

theorem Judging.meets {generation monotonicMs : UInt64} {history : List RegistrationStage}
    {host : RegistrationHost} (judging : Judging generation monotonicMs history host)
    {move : RegistrationMove} {outcome : RegistrationDispatchOutcome}
    (returned : (registrationStep host move).1 = .returned outcome)
    (fresh : outcome.kind ≠ .staleGeneration) :
    MeetsDeadline monotonicMs (history ++ [stageOf registrationStep host move])
      (registrationStep host move).2.gateway := by
  have watched := judging.watched.step move
  obtain ⟨at_, left⟩ := registrationStep_returned returned
  have inTime := judging.returning outcome at_ fresh
  rw [left] at watched ⊢
  intro submitted
  obtain ⟨owner, active⟩ := BaresipSdkRegistrationGateway.submitted_iff.mp submitted
  obtain ⟨submission, newest, serves, covered⟩ := watched.owned owner
  refine ⟨submission, newest, serves.session active, fun unconfirmed => ?_⟩
  rcases covered with armed | confirmed | unguarded
  · obtain ⟨session, times⟩ := serves.armed armed
    exact ⟨armed, session, times, inTime armed⟩
  · cases unconfirmed.symm.trans confirmed
  · cases unguarded

theorem Doomed.closes {generation monotonicMs : UInt64} {history : List RegistrationStage}
    {host : RegistrationHost} (doomed : Doomed monotonicMs host)
    (judging : Judging generation monotonicMs history host) {move : RegistrationMove}
    {outcome : RegistrationDispatchOutcome}
    (returned : (registrationStep host move).1 = .returned outcome)
    (fresh : outcome.kind ≠ .staleGeneration) (others : List RegistrationMove) :
    ClosedReturn generation (registrationStep host move).2
      (stages registrationStep (registrationStep host move).2 others) := by
  obtain ⟨at_, left⟩ := registrationStep_returned returned
  have begun : generation ≤ host.queue.lastGeneration := by
    refine judging.begun.resolve_left fun stale => ?_
    cases at_.symm.trans stale
    exact fresh rfl
  rw [left]
  cases doomed with
  | stale stale =>
      cases at_.symm.trans stale
      exact absurd rfl fresh
  | late framed =>
      rw [at_] at framed
      cases framed
  | leaving leaving =>
      cases leaving with
      | stopping same | unregistering same | invalidating same => cases at_.symm.trans same
      | returning same stopped shut =>
          have inactive : host.gateway.bridge.active = false :=
            BaresipSdkEventAdapter.inactive_of_unregistered stopped.registered
          have closed : ({ host with point := .idle } : RegistrationHost).queue.Closed generation :=
            ⟨begun, fun _ => shut⟩
          refine ⟨stopped, ?_, inactive, judging.watched.unowned stopped.owner, closed,
            closed_run closed others⟩
          rw [BaresipSdkRegistrationGateway.submitted, stopped.owner]
          rfl

theorem Judging.run {generation monotonicMs : UInt64} {history : List RegistrationStage}
    {host : RegistrationHost} (judging : Judging generation monotonicMs history host)
    {inputs : List RegistrationMove}
    (within : ∀ stage ∈ stages registrationStep host inputs, WithinTick stage) :
    Judging generation monotonicMs (history ++ stages registrationStep host inputs)
      (finalState registrationStep host inputs) :=
  history_invariant (Judging generation monotonicMs) WithinTick
    (fun _ _ input known allowed => known.step input allowed) history judging within

theorem Doomed.run {generation monotonicMs : UInt64} {history : List RegistrationStage}
    {host : RegistrationHost} (doomed : Doomed monotonicMs host)
    (judging : Judging generation monotonicMs history host) {inputs : List RegistrationMove}
    (within : ∀ stage ∈ stages registrationStep host inputs, WithinTick stage) :
    Doomed monotonicMs (finalState registrationStep host inputs) := by
  have both := history_invariant
    (fun history host => Judging generation monotonicMs history host ∧ Doomed monotonicMs host)
    WithinTick
    (fun _ _ input known allowed => ⟨known.1.step input allowed, known.2.step known.1 input allowed⟩)
    history ⟨judging, doomed⟩ within
  exact both.2

/-- A tick whose poll finds the deadline overdue comes to stop the gateway. -/
theorem doomed_of_polled {generation monotonicMs : UInt64} {host : RegistrationHost}
    {inputs : List RegistrationMove} {history : List RegistrationStage}
    (judging : Judging generation monotonicMs history host)
    (within : ∀ stage ∈ stages registrationStep host inputs, WithinTick stage)
    {stage : RegistrationStage} (member : stage ∈ stages registrationStep host inputs)
    {time : UInt64} {verdict : RegistrationDeadlineVerdict}
    (poll : polled stage = some (time, verdict)) (overdue : verdict.overdue = true) :
    Doomed monotonicMs (finalState registrationStep host inputs) := by
  induction inputs generalizing history host with
  | nil => cases member
  | cons move rest ih =>
      have next := judging.step move (within _ List.mem_cons_self)
      have others : ∀ stage ∈ stages registrationStep (registrationStep host move).2 rest,
          WithinTick stage := fun stage later => within stage (List.mem_cons_of_mem _ later)
      rcases List.mem_cons.mp member with rfl | later
      · have doomed : Doomed monotonicMs (registrationStep host move).2 := .polled poll overdue
        exact doomed.run next others
      · exact ih next others later

theorem registration_deadlines_kept (inputs : List RegistrationMove) :
    DeadlinesKept (stages registrationStep {} inputs) := by
  constructor
  · rintro before drain during return_ after generation monotonicMs outcome
      ⟨run, ⟨selected, begins⟩, ⟨batch, drained⟩, within, returned⟩ fresh
    obtain ⟨first, move, rest, -, rfl, rfl, behind⟩ := stages_split run
    obtain ⟨second, last, others, -, rfl, rfl, rfl⟩ := stages_split behind.symm
    obtain rfl : move = _ := begins
    have judging := (Judging.begin (run_watched first) (run_sound first) drained).run within
    have meets := judging.meets returned fresh
    rw [List.append_assoc, List.append_assoc] at meets
    exact meets
  · rintro before drain during return_ after generation monotonicMs outcome
      ⟨run, ⟨selected, begins⟩, ⟨batch, drained⟩, within, returned⟩ fresh found
    obtain ⟨first, move, rest, -, rfl, rfl, behind⟩ := stages_split run
    obtain ⟨second, last, others, -, rfl, rfl, rfl⟩ := stages_split behind.symm
    obtain rfl : move = _ := begins
    have begun := Judging.begin (run_watched first) (run_sound first) drained
    have judging := begun.run within
    rcases found with overdue | ⟨stage, member, time, verdict, poll, overdue⟩
    · have doomed := (Doomed.begin (run_sound first) overdue drained).run begun within
      exact doomed.closes judging returned fresh others
    · have doomed := doomed_of_polled begun within member poll overdue
      exact doomed.closes judging returned fresh others
  · rintro before stage after run - armed
    obtain ⟨first, move, rest, -, rfl, rfl, -⟩ := stages_split run
    have watched := run_watched first
    have owner : (finalState registrationStep {} first).gateway.owner ≠ 0 := by
      intro free
      have unarmed := watched.unowned free
      cases unarmed.symm.trans armed
    obtain ⟨submission, newest, serves, -⟩ := watched.owned owner
    obtain ⟨session, times⟩ := serves.armed armed
    exact ⟨submission, newest, session, times, serves.session⟩

/-- The clock may stand at the end of its range: the second tick is still in time, and a third one
that finds it at zero stops. -/
example :
    let owner := RegistrationMove.owner ⟨⟨true, true⟩, false, false⟩
    let latest : UInt64 := 18446744073709551000
    let submitted := finalState registrationStep {}
      ([.begin, .submit 1 1000, .tick 1 latest 7] ++ List.replicate 8 owner ++
        [.tick 1 (latest + 600) 7, owner, owner])
    let stopped := finalState registrationStep submitted (.tick 1 0 7 :: List.replicate 5 owner)
    submitted.gateway.submitted = true ∧ submitted.gateway.deadline = ⟨true, 1, latest, 1000⟩ ∧
      stopped.gateway.owner = 0 ∧ stopped.queue.opened = false := by
  decide

end AxeVoice.Native
