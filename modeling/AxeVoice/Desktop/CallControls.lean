import AxeVoice.Desktop.CallIntents

/-!
# The controls of a call, and the call that is shown

The controls show the state of one call, the one that is displayed, and the DTMF
mode is armed for it only.  What is pressed for is carried out on that call, or
not at all; a control that is enabled is one that the engine would accept.
-/

namespace AxeVoice.Desktop

open Command Foundation Native Sip

variable {width : WCharWidth} {ctype : WideCtype width}

/-- The window is not in the midst of its refreshing. -/
def CallPanelPoint.settled : CallPanelPoint width → Bool
  | .refreshing | .gating _ | .showing _ => false
  | _ => true

theorem mediaControls_of_dtmf {media : NativeCallMediaState} {call : SipRuntimeObservation}
    (current : nativeDtmfControlsCurrent media call = true) :
    nativeMediaControlsCurrent media call = true := by
  rw [nativeDtmfControlsCurrent, Bool.and_eq_true, Bool.and_eq_true] at current
  exact current.1.1

/-- The call button has no part in what is offered for a call. -/
theorem essentialCallActions_call (observed : SipRuntimeObservation) (session : UInt64)
    (dial : Bool) :
    (essentialCallActions observed session dial).answer =
        (essentialCallActions observed session false).answer ∧
      (essentialCallActions observed session dial).hangup =
        (essentialCallActions observed session false).hangup := by
  unfold essentialCallActions
  split
  · exact ⟨rfl, rfl⟩
  · split
    · exact ⟨rfl, rfl⟩
    · split <;> exact ⟨rfl, rfl⟩

/-- What the window shows belongs together. -/
structure Consistent (panel : CallPanel width) : Prop where
  /-- The media are those of the call that is displayed. -/
  media : panel.point.settled = true →
    panel.media = {} ∨ nativeMediaControlsCurrent panel.media panel.displayed = true
  /-- The mode is armed for this call. -/
  armed : panel.point.settled = true → panel.dtmf.armed = true →
    panel.dtmf.active panel.media panel.displayed = true
  observed : ∀ observed, panel.point = .gating observed ∨ panel.point = .showing observed →
    panel.displayed = observed
  /-- The controls are those of the call. -/
  call : (∀ observed, panel.point ≠ .gating observed) →
    panel.point ≠ .refreshing →
      panel.controls.answer =
          (essentialCallActions panel.displayed panel.displayed.session false).answer ∧
        panel.controls.hangup =
          (essentialCallActions panel.displayed panel.displayed.session false).hangup
  controls : panel.point.settled = true →
    panel.controls.media = nativeMediaControlsCurrent panel.media panel.displayed ∧
      panel.controls.dtmf = nativeDtmfControlsCurrent panel.media panel.displayed

theorem consistent_initial : Consistent ({} : CallPanel width) where
  media _ := .inl rfl
  armed _ armed := by cases armed
  observed _ points := by rcases points with point | point <;> cases point
  call _ _ := ⟨rfl, rfl⟩
  controls _ := ⟨rfl, rfl⟩

/-- A step that shows nothing new. -/
theorem Consistent.unchanged {panel after : CallPanel width} (consistent : Consistent panel)
    (settled : panel.point.settled = true)
    (shows : after.media = panel.media ∧ after.displayed = panel.displayed ∧
      after.controls = panel.controls)
    (calm : after.point = .refreshing ∨ after.point.settled = true ∧ after.dtmf = panel.dtmf) :
    Consistent after := by
  obtain ⟨media, displayed, controls⟩ := shows
  have elsewhere : ∀ {point : CallPanelPoint width}, point.settled = true →
      (∀ observed, point ≠ .gating observed) ∧ point ≠ .refreshing := by
    intro point resting
    constructor
    · rintro observed rfl
      cases resting
    · rintro rfl
      cases resting
  refine ⟨fun resting => ?_, fun resting => ?_, fun observed points => ?_, fun ungated resting => ?_,
    fun resting => ?_⟩
  · rw [media, displayed]
    exact consistent.media settled
  · rcases calm with refreshing | ⟨-, dtmf⟩
    · rw [refreshing] at resting
      cases resting
    · rw [dtmf, media, displayed]
      exact consistent.armed settled
  · rcases calm with refreshing | ⟨resting, -⟩
    · rw [refreshing] at points
      rcases points with point | point <;> cases point
    · rcases points with point | point <;> rw [point] at resting <;> cases resting
  · rw [controls, displayed]
    exact consistent.call (elsewhere settled).1 (elsewhere settled).2
  · rw [controls, media, displayed]
    exact consistent.controls settled

theorem Consistent.guiStep {panel : CallPanel width} (consistent : Consistent panel) (now : UInt64) :
    Consistent (panel.guiStep ctype now).2 := by
  cases point : panel.point with
  | idle =>
      simp only [CallPanel.guiStep, point]
      exact consistent
  | refreshing =>
      simp only [CallPanel.guiStep, point]
      refine ⟨fun settled => ?_, fun settled => ?_, ?_, ?_, fun settled => ?_⟩
      · cases settled
      · cases settled
      · rintro observed (same | same) <;> cases same
        rfl
      · exact fun gated => absurd rfl (gated _)
      · cases settled
  | gating observed =>
      have displayed := consistent.observed observed (.inl point)
      simp only [CallPanel.guiStep, point]
      refine ⟨fun settled => ?_, fun settled => ?_, ?_, ?_, fun settled => ?_⟩
      · cases settled
      · cases settled
      · rintro other (same | same) <;> cases same
        exact displayed
      · intro _ _
        rw [show (panel.gate ctype observed).displayed = observed from displayed]
        exact essentialCallActions_call observed observed.session _
      · cases settled
  | showing observed =>
      have displayed := consistent.observed observed (.inr point)
      have offered := consistent.call (by simp [point]) (by simp [point])
      simp only [CallPanel.guiStep, point]
      have shown : (panel.showMedia ctype observed).displayed = observed := displayed
      have media : (panel.showMedia ctype observed).media =
          if nativeMediaControlsCurrent panel.calls.engine.media observed then
            panel.calls.engine.media else {} := rfl
      have dtmf : (panel.showMedia ctype observed).dtmf =
          panel.dtmf.synchronize panel.calls.engine.media observed := rfl
      have controls : (panel.showMedia ctype observed).controls.media =
            nativeMediaControlsCurrent panel.calls.engine.media observed ∧
          (panel.showMedia ctype observed).controls.dtmf =
            nativeDtmfControlsCurrent panel.calls.engine.media observed := ⟨rfl, rfl⟩
      refine ⟨fun _ => ?_, fun _ armed => ?_, ?_, fun _ _ => offered, fun _ => ?_⟩
      · rw [media, shown]
        split
        · next current => exact .inr current
        · exact .inl rfl
      · rw [dtmf, NativeDtmfMode.synchronize] at armed
        rw [dtmf, NativeDtmfMode.synchronize, media, shown]
        split at armed
        · next active =>
            rw [if_pos active]
            have current := active
            rw [NativeDtmfMode.active, Bool.and_eq_true] at current
            rw [if_pos (mediaControls_of_dtmf current.2)]
            exact active
        · cases armed
      · rintro other (same | same) <;> cases same
      · rw [controls.1, controls.2, media, shown]
        cases current : nativeMediaControlsCurrent panel.calls.engine.media observed with
        | true => exact ⟨current.symm, rfl⟩
        | false => exact ⟨rfl, by rw [nativeDtmfControlsCurrent, current]; rfl⟩
  | toggling =>
      simp only [CallPanel.guiStep, point]
      exact consistent.unchanged (by rw [point]; rfl) ⟨rfl, rfl, rfl⟩ (.inl rfl)
  | recording review =>
      simp only [CallPanel.guiStep, point]
      refine consistent.unchanged (by rw [point]; rfl) ⟨rfl, rfl, rfl⟩ (.inr ⟨?_, rfl⟩)
      dsimp only
      split <;> rfl
  | submitting request =>
      simp only [CallPanel.guiStep, point]
      exact consistent.unchanged (by rw [point]; rfl) ⟨rfl, rfl, rfl⟩ (.inr ⟨rfl, rfl⟩)
  | keying | controlling | answering | preferring | transferring =>
      simp only [CallPanel.guiStep, point]
      split <;> exact consistent.unchanged (by rw [point]; rfl) ⟨rfl, rfl, rfl⟩ (.inr ⟨rfl, rfl⟩)

theorem Consistent.step {panel : CallPanel width} (consistent : Consistent panel)
    (move : CallPanelMove width) : Consistent (callPanelStep ctype panel move).2 := by
  cases move with
  | gui now => exact consistent.guiStep now
  | owner move =>
      simp only [callPanelStep]
      split
      · exact consistent
      · exact ⟨consistent.media, consistent.armed, consistent.observed, consistent.call,
          consistent.controls⟩
  | message message =>
      simp only [callPanelStep]
      split
      next point =>
        have settled : panel.point.settled = true := by
          rw [point]
          rfl
        cases message with
        | refresh => exact consistent.unchanged settled ⟨rfl, rfl, rfl⟩ (.inl rfl)
        | press button =>
            cases button <;> exact consistent.unchanged settled ⟨rfl, rfl, rfl⟩ (.inr ⟨rfl, rfl⟩)
        | key index =>
            simp only [CallPanel.handle, CallPanel.pressKey]
            split
            · exact consistent.unchanged settled ⟨rfl, rfl, rfl⟩ (.inr ⟨rfl, rfl⟩)
            · exact consistent.unchanged settled ⟨rfl, rfl, rfl⟩ (.inr ⟨settled, rfl⟩)
        | confirm yes =>
            simp only [CallPanel.handle]
            split
            · exact consistent
            · refine consistent.unchanged settled ⟨rfl, rfl, rfl⟩ (.inr ⟨?_, rfl⟩)
              dsimp only
              split <;> rfl
        | call move =>
            simp only [CallPanel.handle]
            split
            · exact consistent
            · exact consistent.unchanged settled ⟨rfl, rfl, rfl⟩ (.inr ⟨settled, rfl⟩)
        | preferences => exact consistent.unchanged settled ⟨rfl, rfl, rfl⟩ (.inr ⟨rfl, rfl⟩)
        | backspace | clear | edit =>
            exact consistent.unchanged settled ⟨rfl, rfl, rfl⟩ (.inr ⟨settled, rfl⟩)
      next => exact consistent

def PressesDtmf (stage : CallPanelStage width) : Prop :=
  stage.input = .message (.press .dtmf) ∧ stage.before.point = .idle

/-- The handler of the button finds the mode off, and arms it for the call. -/
structure Arms (stage : CallPanelStage width) (session call : UInt64) : Prop where
  handler : (∃ now, stage.input = .gui now) ∧ stage.before.point = .toggling
  off : stage.before.dtmf.active stage.before.media stage.before.observation = false
  armed : stage.after.dtmf = ⟨session, call⟩

/-- With the last press of the button, while the call was shown, the mode was switched on. -/
def SwitchedFor (history : List (CallPanelStage width)) (session call : UInt64) : Prop :=
  ∃ before arm after, history = before ++ arm :: after ∧
    Outstanding (fun press => PressesDtmf press ∧ press.before.media.session = session ∧
      press.before.media.callId = call) PressesDtmf before ∧
    Arms arm session call ∧ ∀ later ∈ after, ¬ PressesDtmf later

theorem SwitchedFor.extend {history : List (CallPanelStage width)} {session call : UInt64}
    {last : CallPanelStage width} (switched : SwitchedFor history session call)
    (quiet : ¬ PressesDtmf last) : SwitchedFor (history ++ [last]) session call := by
  obtain ⟨before, arm, after, rfl, pressed, arms, silent⟩ := switched
  exact ⟨before, arm, after ++ [last], by simp, pressed, arms, forall_mem_concat silent quiet⟩

/-- The user has switched the mode on for the call that was shown, and pressed no more since. -/
structure SwitchedOn (history : List (CallPanelStage width)) (panel : CallPanel width) : Prop where
  pressed : panel.point = .toggling →
    Outstanding (fun stage => PressesDtmf stage ∧ stage.before.media = panel.media) PressesDtmf history
  armed : panel.dtmf.armed = true → panel.point ≠ .toggling →
    SwitchedFor history panel.dtmf.session panel.dtmf.call

namespace SwitchedOn

variable {history : List (CallPanelStage width)} {panel after : CallPanel width}
  {last : CallPanelStage width}

/-- A step that is no press keeps the mode, or switches it off. -/
theorem kept (known : SwitchedOn history panel) (quiet : ¬ PressesDtmf last)
    (away : panel.point ≠ .toggling)
    (mode : after.point ≠ .toggling ∧ (after.dtmf = panel.dtmf ∨ after.dtmf.armed = false)) :
    SwitchedOn (history ++ [last]) after where
  pressed toggling := absurd toggling mode.1
  armed armed _ := by
    rcases mode.2 with same | off
    · rw [same] at armed ⊢
      exact (known.armed armed away).extend quiet
    · cases armed.symm.trans off

/-- A step of another thread, or of a handler that the message does not reach. -/
theorem unmoved (known : SwitchedOn history panel) (quiet : ¬ PressesDtmf last)
    (same : after.point = panel.point ∧ after.media = panel.media ∧ after.dtmf = panel.dtmf) :
    SwitchedOn (history ++ [last]) after := by
  obtain ⟨point, media, dtmf⟩ := same
  constructor
  · rw [point, media]
    exact fun toggling => outstanding_concat.mpr (.inr ⟨known.pressed toggling, quiet⟩)
  · rw [point, dtmf]
    exact fun armed away => (known.armed armed away).extend quiet

/-- The mode is armed behind its handler if it was off before, and for the call that is shown. -/
theorem toggle_armed {mode : NativeDtmfMode} {media : NativeCallMediaState}
    {call : SipRuntimeObservation} (armed : (mode.toggle media call).2.armed = true) :
    mode.active media call = false ∧ (mode.toggle media call).2 = ⟨media.session, media.callId⟩ := by
  unfold NativeDtmfMode.toggle at armed ⊢
  split at armed
  · cases armed
  next off =>
  rw [if_neg off]
  split at armed
  · cases armed
  next current =>
  exact ⟨by simpa using off, by rw [if_neg current]⟩

theorem toggled (known : SwitchedOn history panel) (point : panel.point = .toggling) (now : UInt64) :
    SwitchedOn (history ++ [stageOf (callPanelStep ctype) panel (.gui now)])
      (callPanelStep ctype panel (.gui now)).2 := by
  have stepped : (callPanelStep ctype panel (.gui now)).2 =
      { panel with
        dtmf := (panel.dtmf.toggle panel.media panel.observation).2
        point := .refreshing } := by
    simp only [callPanelStep, CallPanel.guiStep, point]
  rw [stepped]
  refine ⟨fun toggling => (by cases toggling), fun armed _ => ?_⟩
  obtain ⟨off, mode⟩ := toggle_armed armed
  rw [mode]
  obtain ⟨before, press, later, split, ⟨presses, media⟩, silent⟩ := known.pressed point
  refine ⟨history, _, [], rfl, ⟨before, press, later, split, ⟨presses, ?_⟩, silent⟩,
    ⟨⟨⟨now, rfl⟩, point⟩, off, ?_⟩, by simp⟩
  · rw [media]
    exact ⟨rfl, rfl⟩
  · exact (congrArg CallPanel.dtmf stepped).trans mode

theorem guiStep (known : SwitchedOn history panel) (now : UInt64) (away : panel.point ≠ .toggling)
    (quiet : ¬ PressesDtmf last) : SwitchedOn (history ++ [last]) (panel.guiStep ctype now).2 := by
  cases point : panel.point with
  | toggling => exact absurd point away
  | showing observed =>
      refine known.kept quiet (by simp [point]) ?_
      simp only [CallPanel.guiStep, point]
      refine ⟨fun toggling => (by cases toggling), ?_⟩
      simp only [CallPanel.showMedia, NativeDtmfMode.synchronize]
      split
      · exact .inl rfl
      · exact .inr rfl
  | recording review =>
      refine known.kept quiet (by simp [point]) ?_
      simp only [CallPanel.guiStep, point]
      split <;> simp
  | idle | refreshing | gating | submitting =>
      refine known.kept quiet (by simp [point]) ?_
      simp [CallPanel.guiStep, point, CallPanel.observe, CallPanel.gate]
  | keying | controlling | answering | preferring | transferring =>
      refine known.kept quiet (by simp [point]) ?_
      simp only [CallPanel.guiStep, point]
      split <;> exact ⟨fun toggling => (by cases toggling), .inl rfl⟩

theorem handle (known : SwitchedOn history panel) (point : panel.point = .idle)
    (message : CallPanelMessage width) (other : message ≠ .press .dtmf)
    (quiet : ¬ PressesDtmf last) : SwitchedOn (history ++ [last]) (panel.handle ctype message).2 := by
  refine known.kept quiet (by simp [point]) ?_
  cases message with
  | press button =>
      cases button with
      | dtmf => exact absurd rfl other
      | answer | hangup | mute | hold | transfer =>
          exact ⟨fun toggling => (by cases toggling), .inl rfl⟩
  | key index =>
      simp only [CallPanel.handle, CallPanel.pressKey]
      split <;> simp [point]
  | confirm yes =>
      simp only [CallPanel.handle]
      split
      · simp [point]
      · cases yes <;> simp
  | call move =>
      simp only [CallPanel.handle]
      split <;> simp [point]
  | refresh | preferences => exact ⟨fun toggling => (by cases toggling), .inl rfl⟩
  | backspace | clear | edit => simp [CallPanel.handle, point]

theorem step (known : SwitchedOn history panel) (move : CallPanelMove width) :
    SwitchedOn (history ++ [stageOf (callPanelStep ctype) panel move])
      (callPanelStep ctype panel move).2 := by
  cases move with
  | gui now =>
      by_cases point : panel.point = .toggling
      · exact known.toggled point now
      · exact known.guiStep now point fun presses => by cases presses.1
  | owner move =>
      refine known.unmoved (fun presses => by cases presses.1) ?_
      simp only [callPanelStep]
      split <;> exact ⟨rfl, rfl, rfl⟩
  | message message =>
      by_cases point : panel.point = .idle
      · have stepped : (callPanelStep ctype panel (.message message)).2 =
            (panel.handle ctype message).2 := by
          simp only [callPanelStep, point]
        rw [stepped]
        by_cases dtmf : message = .press .dtmf
        · subst dtmf
          refine ⟨fun _ => ?_, fun _ away => absurd rfl away⟩
          exact outstanding_concat.mpr (.inl ⟨⟨rfl, point⟩, rfl⟩)
        · refine known.handle point message dtmf fun presses => dtmf ?_
          cases presses.1
          rfl
      · refine known.unmoved (fun presses => point presses.2) ?_
        simp [callPanelStep]

end SwitchedOn

/-- The message box that a step opens. -/
def openedReview (stage : CallPanelStage width) : Option (TransferReview width) :=
  if stage.before.reviews.length < stage.after.reviews.length then stage.after.reviews.head?
  else none

/-- The message box that the user confirms. -/
def confirmedReview (stage : CallPanelStage width) : Option (TransferReview width) :=
  match stage.input, stage.before.point with
  | .message (.confirm true), .idle => stage.before.reviews.head?
  | _, _ => none

/-- A message box opens for the number and the media that the window shows. -/
theorem guiStep_reviews (panel : CallPanel width) (now : UInt64) :
    (panel.guiStep ctype now).2.reviews = panel.reviews ∨ panel.point = .transferring ∧
      nativeMediaControlsCurrent panel.media panel.observation = true ∧
        (panel.guiStep ctype now).2.reviews =
          ⟨panel.number.windowText, panel.media⟩ :: panel.reviews := by
  cases point : panel.point with
  | transferring =>
      simp only [CallPanel.guiStep, point]
      split
      · exact .inl rfl
      · next current =>
          simp only [Bool.or_eq_true, Bool.not_eq_true', not_or, Bool.not_eq_false] at current
          exact .inr ⟨trivial, current.1.1, rfl⟩
  | keying | controlling | answering | preferring =>
      simp only [CallPanel.guiStep, point]
      split <;> exact .inl rfl
  | idle | refreshing | gating | showing | toggling | recording | submitting =>
      simp [CallPanel.guiStep, point, CallPanel.observe, CallPanel.gate, CallPanel.showMedia]

theorem handle_reviews (panel : CallPanel width) (message : CallPanelMessage width) :
    (panel.handle ctype message).2.reviews = match message with
      | .confirm _ => panel.reviews.tail
      | _ => panel.reviews := by
  cases message with
  | press button => cases button <;> rfl
  | key index =>
      simp only [CallPanel.handle, CallPanel.pressKey]
      split <;> rfl
  | confirm yes =>
      simp only [CallPanel.handle]
      split
      · next none_ => rw [none_]; rfl
      · next some_ => rw [some_]; rfl
  | call move =>
      simp only [CallPanel.handle]
      split <;> rfl
  | refresh | preferences | backspace | clear | edit => rfl

/-- What a step does to the message boxes. -/
inductive ReviewsStep (panel : CallPanel width) (move : CallPanelMove width) :
    List (TransferReview width) → Prop
  | kept (unconfirmed : panel.point = .idle → move ≠ .message (.confirm true)) :
      ReviewsStep panel move panel.reviews
  | opened {now : UInt64} (gui : move = .gui now) (point : panel.point = .transferring)
      (current : nativeMediaControlsCurrent panel.media panel.observation = true) :
      ReviewsStep panel move (⟨panel.number.windowText, panel.media⟩ :: panel.reviews)
  | closed {yes : Bool} (input : move = .message (.confirm yes)) (point : panel.point = .idle) :
      ReviewsStep panel move panel.reviews.tail

theorem callPanelStep_reviews (ctype : WideCtype width) (panel : CallPanel width)
    (move : CallPanelMove width) :
    ReviewsStep panel move (callPanelStep ctype panel move).2.reviews := by
  cases move with
  | gui now =>
      have stepped : (callPanelStep ctype panel (.gui now)).2 = (panel.guiStep ctype now).2 := rfl
      rw [stepped]
      rcases @guiStep_reviews _ ctype panel now with same | ⟨point, current, opened⟩
      · rw [same]
        exact .kept fun _ confirms => by cases confirms
      · rw [opened]
        exact .opened rfl point current
  | owner move =>
      have same : (callPanelStep ctype panel (.owner move)).2.reviews = panel.reviews := by
        simp only [callPanelStep]
        split <;> rfl
      rw [same]
      exact .kept fun _ confirms => by cases confirms
  | message message =>
      by_cases point : panel.point = .idle
      · have stepped : (callPanelStep ctype panel (.message message)).2 =
            (panel.handle ctype message).2 := by
          simp only [callPanelStep, point]
        rw [stepped, handle_reviews]
        cases message with
        | confirm yes => exact .closed rfl point
        | _ => exact .kept fun _ confirms => by cases confirms
      · have stepped : (callPanelStep ctype panel (.message message)).2 = panel := by
          simp only [callPanelStep]
        rw [stepped]
        exact .kept fun idle => absurd idle point

theorem openedReview_of_le {stage : CallPanelStage width}
    (fewer : stage.after.reviews.length ≤ stage.before.reviews.length) :
    openedReview stage = none :=
  if_neg (Nat.not_lt.mpr fewer)

theorem openedReview_of_cons {stage : CallPanelStage width} {review : TransferReview width}
    (opened : stage.after.reviews = review :: stage.before.reviews) :
    openedReview stage = some review := by
  have longer : stage.before.reviews.length < stage.after.reviews.length := by
    rw [opened]
    exact Nat.lt_succ_self _
  rw [openedReview, if_pos longer, opened]
  rfl

/-- A message box asks about what was shown when it opened, of the call that was shown. -/
theorem openedReview_shown {panel : CallPanel width} (consistent : Consistent panel)
    {move : CallPanelMove width} {review : TransferReview width}
    (opened : openedReview (stageOf (callPanelStep ctype) panel move) = some review) :
    review.target = panel.number.windowText ∧ review.expected = panel.media ∧
      panel.displayed.session = review.expected.session ∧
        panel.displayed.callId = review.expected.callId := by
  have stepped := callPanelStep_reviews ctype panel move
  generalize shown : (callPanelStep ctype panel move).2.reviews = reviews at stepped
  cases stepped with
  | kept =>
      rw [openedReview_of_le (Nat.le_of_eq (congrArg List.length shown))] at opened
      cases opened
  | closed =>
      rw [openedReview_of_le ((congrArg List.length shown).trans_le (by simp [stageOf]))] at opened
      cases opened
  | opened gui point current =>
      rw [openedReview_of_cons shown, Option.some.injEq] at opened
      subst opened
      rcases consistent.media (by rw [point]; rfl) with none_ | media
      · rw [none_] at current
        cases current
      · obtain ⟨session, callId, -⟩ := mediaControls_current media
        exact ⟨rfl, rfl, session.symm, callId.symm⟩

theorem confirmedReview_of_other {stage : CallPanelStage width}
    (other : stage.before.point = .idle → stage.input ≠ .message (.confirm true)) :
    confirmedReview stage = none := by
  unfold confirmedReview
  split
  · next input point => exact absurd input (other point)
  · rfl

/-- Every message box is confirmed once at most. -/
theorem reviews_spent (ctype : WideCtype width) :
    Spends (callPanelStep ctype) CallPanel.reviews openedReview confirmedReview := by
  intro panel move
  have stepped := callPanelStep_reviews ctype panel move
  generalize shown : (callPanelStep ctype panel move).2.reviews = reviews at stepped ⊢
  cases stepped with
  | kept unconfirmed =>
      rw [confirmedReview_of_other unconfirmed,
        openedReview_of_le (Nat.le_of_eq (congrArg List.length shown))]
      simp [List.Subperm.refl]
  | opened gui point current =>
      have quiet : (stageOf (callPanelStep ctype) panel move).input ≠ .message (.confirm true) := by
        rw [stageOf, gui]
        exact fun same => by cases same
      rw [confirmedReview_of_other fun _ => quiet, openedReview_of_cons shown]
      exact (List.perm_append_singleton _ _).symm.subperm
  | @closed yes input point =>
      rw [openedReview_of_le ((congrArg List.length shown).trans_le (by simp [stageOf])),
        Option.toList_none, List.append_nil]
      refine List.Sublist.subperm ?_
      cases yes with
      | false =>
          have quiet : (stageOf (callPanelStep ctype) panel move).input ≠
              .message (.confirm true) := by
            rw [stageOf, input]
            exact fun same => by cases same
          rw [confirmedReview_of_other fun _ => quiet]
          exact List.tail_sublist _
      | true =>
          have confirmed : confirmedReview (stageOf (callPanelStep ctype) panel move) =
              panel.reviews.head? := by
            simp only [confirmedReview, stageOf, input, point]
          rw [confirmed]
          cases panel.reviews <;> exact List.Sublist.refl _

/-! ## What is carried out -/

/-- The command that the SDK is asked for. -/
def carriedOut (stage : CallPanelStage width) : Option NativeCallCommand :=
  match stage.output, stage.before.calls.point with
  | .invoked .., .dispatching _ _ pending => some pending
  | _, _ => none

/-- A step shows what its step of the engine shows. -/
theorem callPanelStep_output (panel : CallPanel width) (move : CallPanelMove width) :
    (callPanelStep ctype panel move).1 = match panelAsked ctype panel move with
      | some request => (callStep ctype panel.calls request).1
      | none => .nothing := by
  cases move with
  | owner move =>
      simp only [callPanelStep, panelAsked]
      cases ofOwner move <;> rfl
  | gui now =>
      cases point : panel.point with
      | idle | refreshing | gating | showing | toggling | recording | submitting =>
          simp only [callPanelStep, CallPanel.guiStep, panelAsked, guiAsked, point]
      | keying | controlling | answering | preferring | transferring =>
          simp only [callPanelStep, CallPanel.guiStep, panelAsked, guiAsked, point]
          split <;> rfl
  | message message =>
      by_cases point : panel.point = .idle
      · cases message with
        | call move =>
            simp only [callPanelStep, panelAsked, CallPanel.handle, point]
            cases besideControls move <;> rfl
        | press button =>
            simp only [callPanelStep, panelAsked, point]
            cases button <;> rfl
        | confirm yes =>
            simp only [callPanelStep, panelAsked, CallPanel.handle, point]
            split <;> rfl
        | refresh | preferences | key | backspace | clear | edit =>
            simp only [callPanelStep, panelAsked, CallPanel.handle, point]
      · cases message with
        | call move => simp only [callPanelStep, panelAsked]
        | _ => simp only [callPanelStep, panelAsked]

theorem carriedOut_within (panel : CallPanel width) (move : CallPanelMove width) :
    carriedOut (stageOf (callPanelStep ctype) panel move) =
      ((callsWithin ctype).within (stageOf (callPanelStep ctype) panel move)).bind carriedCommand := by
  simp only [carriedOut, stageOf, callPanelStep_output, Component.within, callsWithin]
  cases panelAsked ctype panel move with
  | none => rfl
  | some request => rfl

/-- The adapter holds the call of what is carried out. -/
theorem carriedCommand_held {state : CallEngine width} (grounded : Grounded state)
    {move : CallMove width} {command : NativeCallCommand}
    (carried : carriedCommand (stageOf (callStep ctype) state move) = some command) :
    state.sdk.adapter.session = command.session ∧
      state.sdk.adapter.activeToken = command.callId := by
  simp only [carriedCommand, stageOf] at carried
  split at carried
  · next observed port pending shown point =>
      cases carried
      have sees := grounded.sees
      rw [point] at sees
      obtain ⟨⟨shows, captured⟩, current⟩ := sees
      obtain ⟨session, callId, -⟩ := current_names current
      exact ⟨(session.trans shows.session).symm, (callId.trans shows.callId).symm⟩
  · cases carried

/-- What the messages of the window ask for. -/
inductive Asks (ctype : WideCtype width) (panel : CallPanel width) :
    CallPanelMessage width → NativeCallCommand → Prop
  | call {message : CallPanelMessage width} (hangup : Bool) :
      Asks ctype panel message
        { action := if hangup then .hangup else .answer
          session := panel.displayed.session
          callId := panel.displayed.callId }
  | media {message : CallPanelMessage width} (hold : Bool) :
      Asks ctype panel message
        { action := if hold then .setHold else .setMute
          session := panel.media.session
          callId := panel.media.callId
          desired := if hold then !panel.media.localHold else !panel.media.muted }
  | key {index : Fin 12} (armed : panel.dtmf.armed = true) :
      Asks ctype panel (.key index)
        { action := .dtmf
          session := panel.media.session
          callId := panel.media.callId
          destination := [dialpadKey index] }
  | transfer {review : TransferReview width} (opened : panel.reviews.head? = some review) :
      Asks ctype panel (.confirm true)
        { action := .transfer
          session := review.expected.session
          callId := review.expected.callId
          destination := (nativeTransferDestinationResult ctype review.target
            panel.calls.engine.account).uri }

theorem asks_asksFor {panel : CallPanel width} {message : CallPanelMessage width}
    {request : CallRequest} (asks : panel.asksFor ctype message = some request) :
    Asks ctype panel message (requestedCommand request) := by
  cases message with
  | press button =>
      cases button with
      | answer =>
          cases asks
          exact .call false
      | hangup =>
          cases asks
          exact .call true
      | mute =>
          cases asks
          exact .media false
      | hold =>
          cases asks
          exact .media true
      | transfer | dtmf => cases asks
  | preferences reject =>
      cases asks
      cases reject
      · exact .call false
      · exact .call true
  | key index =>
      simp only [CallPanel.asksFor] at asks
      split at asks
      · next armed =>
          cases asks
          exact .key armed
      · cases asks
  | confirm yes =>
      cases yes with
      | false => cases asks
      | true =>
          obtain ⟨review, opened, rfl⟩ := Option.map_eq_some_iff.mp asks
          exact .transfer opened
  | refresh | backspace | clear | edit | call => cases asks

theorem asks_of_pressed {panel : CallPanel width} {move : CallPanelMove width}
    {command : NativeCallCommand}
    (pressed : pressedCommand ctype (stageOf (callPanelStep ctype) panel move) = some command) :
    ∃ message, move = .message message ∧ panel.point = .idle ∧ Asks ctype panel message command := by
  simp only [pressedCommand, stageOf] at pressed
  split at pressed
  · next message point =>
      obtain ⟨request, asks, rfl⟩ := Option.map_eq_some_iff.mp pressed
      exact ⟨message, rfl, point, asks_asksFor asks⟩
  · cases pressed

/-- A press names the call that is shown; a transfer names that of its message box. -/
theorem pressedCommand_shown {panel : CallPanel width} (consistent : Consistent panel)
    {move : CallPanelMove width} {command : NativeCallCommand}
    (pressed : pressedCommand ctype (stageOf (callPanelStep ctype) panel move) = some command)
    (live : command.callId ≠ 0) (direct : command.action ≠ .transfer) :
    panel.displayed.session = command.session ∧ panel.displayed.callId = command.callId := by
  obtain ⟨message, -, point, asks⟩ := asks_of_pressed pressed
  have media : panel.media.callId ≠ 0 → panel.displayed.session = panel.media.session ∧
      panel.displayed.callId = panel.media.callId := by
    intro some_
    rcases consistent.media (by rw [point]; rfl) with none_ | current
    · rw [none_] at some_
      exact absurd rfl some_
    · obtain ⟨session, callId, -⟩ := mediaControls_current current
      exact ⟨session.symm, callId.symm⟩
  cases asks with
  | call hangup => exact ⟨rfl, rfl⟩
  | media hold => exact media live
  | key armed => exact media live
  | transfer opened => exact absurd rfl direct

theorem grounded_calls {panel : CallPanel width} (grounded : Grounded panel.calls)
    (move : CallPanelMove width) : Grounded (callPanelStep ctype panel move).2.calls := by
  cases asked : panelAsked ctype panel move with
  | none =>
      have same : (callPanelStep ctype panel move).2.calls = panel.calls :=
        (callsWithin ctype).rests asked
      rwa [same]
  | some request =>
      have stepped : (callPanelStep ctype panel move).2.calls =
          (callStep ctype panel.calls request).2 := (callsWithin ctype).moves asked
      rw [stepped]
      exact grounded.step ctype request

theorem carriedOut_held {panel : CallPanel width} (grounded : Grounded panel.calls)
    {move : CallPanelMove width} {command : NativeCallCommand}
    (carried : carriedOut (stageOf (callPanelStep ctype) panel move) = some command) :
    panel.calls.sdk.adapter.session = command.session ∧
      panel.calls.sdk.adapter.activeToken = command.callId := by
  rw [carriedOut_within] at carried
  obtain ⟨inner, within, carries⟩ := Option.bind_eq_some_iff.mp carried
  obtain ⟨request, -, rfl⟩ := Option.map_eq_some_iff.mp within
  exact carriedCommand_held grounded carries

/-- The controls of the window, against what the SDK is asked for. -/
structure ActsAsPressed (run : List (CallPanelStage width)) (ctype : WideCtype width) : Prop where
  /--
  The SDK is asked for what the user has pressed for, with the same digit,
  destination or state, in that order, and once at most for a press.
  -/
  carried : (run.filterMap carriedOut).Sublist (run.filterMap (pressedCommand ctype))
  /-- It holds the call then. -/
  held : ∀ stage ∈ run, ∀ command, carriedOut stage = some command →
    stage.before.calls.sdk.adapter.session = command.session ∧
      stage.before.calls.sdk.adapter.activeToken = command.callId
  /-- The window shows the call that a press is for. -/
  shown : ∀ stage ∈ run, ∀ command, pressedCommand ctype stage = some command →
    command.callId ≠ 0 → command.action ≠ .transfer →
      stage.before.displayed.session = command.session ∧
        stage.before.displayed.callId = command.callId
  /-- A transfer is that of the message box that the user confirms. -/
  reviewed : ∀ stage ∈ run, ∀ command, pressedCommand ctype stage = some command →
    command.action = .transfer → ∃ review, confirmedReview stage = some review ∧
      command.session = review.expected.session ∧ command.callId = review.expected.callId ∧
        command.destination = (nativeTransferDestinationResult ctype review.target
          stage.before.calls.engine.account).uri
  /-- A message box asks about the call, and the number, that the window shows. -/
  opened : ∀ stage ∈ run, ∀ review, openedReview stage = some review →
    review.target = stage.before.number.windowText ∧ review.expected = stage.before.media ∧
      stage.before.displayed.session = review.expected.session ∧
        stage.before.displayed.callId = review.expected.callId
  /-- Every message box is confirmed once at most. -/
  confirmed : (run.filterMap confirmedReview).Subperm (run.filterMap openedReview)
  /-- Digits go to the call for which the last press of the button has switched the mode on. -/
  digits : ∀ before key after command, run = before ++ key :: after →
    pressedCommand ctype key = some command → command.action = .dtmf →
      SwitchedFor before command.session command.callId

theorem known_run (ctype : WideCtype width) (moves : List (CallPanelMove width)) :
    Consistent (finalState (callPanelStep ctype) {} moves) ∧
      SwitchedOn (stages (callPanelStep ctype) {} moves) (finalState (callPanelStep ctype) {} moves) := by
  have known := @history_invariant _ _ _ (callPanelStep ctype)
    (fun history panel => Consistent panel ∧ SwitchedOn history panel) (fun _ => True)
    (fun _ _ move known _ => ⟨known.1.step move, known.2.step move⟩) [] ({} : CallPanel width)
    ⟨consistent_initial, fun toggling => (by cases toggling), fun armed => (by cases armed)⟩ moves
    fun _ _ => trivial
  rwa [List.nil_append] at known

theorem controls_act_as_pressed (ctype : WideCtype width) (moves : List (CallPanelMove width)) :
    ActsAsPressed (stages (callPanelStep ctype) {} moves) ctype := by
  have consistent (panel : CallPanel width) (move : CallPanelMove width)
      (known : Consistent panel) : Consistent (callPanelStep ctype panel move).2 := known.step move
  refine ⟨?_, ?_, ?_, ?_, ?_, ?_, ?_⟩
  · have empty : callsInFlight ({} : CallPanel width).calls ++
        ({} : CallPanel width).pursued ctype = [] := rfl
    have conveyed := (controls_convey ctype).delivered empty moves
    have same : ∀ stage ∈ stages (callPanelStep ctype) {} moves,
        carriedOut stage = ((callsWithin ctype).within stage).bind carriedCommand :=
      stages_forall_of_step _ (fun panel move => carriedOut_within panel move) {} moves
    rwa [List.filterMap_congr same]
  · exact @stages_forall _ _ _ _ (fun panel => Grounded panel.calls) _
      (fun _ move grounded => grounded_calls grounded move)
      (fun _ _ grounded _ carried => carriedOut_held grounded carried) _ grounded_initial moves
  · exact @stages_forall _ _ _ _ Consistent _ consistent
      (fun _ _ known _ pressed => pressedCommand_shown known pressed) _ consistent_initial moves
  · refine stages_forall_of_step _ ?_ ({} : CallPanel width) moves
    intro panel move command pressed transfers
    obtain ⟨message, rfl, point, asks⟩ := asks_of_pressed pressed
    cases asks with
    | call hangup => cases hangup <;> cases transfers
    | media hold => cases hold <;> cases transfers
    | key armed => cases transfers
    | @transfer review opened =>
        refine ⟨review, ?_, rfl, rfl, rfl⟩
        simp only [confirmedReview, stageOf, point, opened]
  · exact @stages_forall _ _ _ _ Consistent _ consistent
      (fun _ _ known _ opens => openedReview_shown known opens) _ consistent_initial moves
  · have economy := (reviews_spent ctype).run ({} : CallPanel width) moves
    exact (List.sublist_append_left _ _).subperm.trans economy
  · intro before key after command split pressed digit
    obtain ⟨first, move, rest, rfl, rfl, rfl, -⟩ := stages_split split
    obtain ⟨known, switched⟩ := known_run ctype first
    obtain ⟨message, rfl, point, asks⟩ := asks_of_pressed pressed
    cases asks with
    | call hangup => cases hangup <;> cases digit
    | media hold => cases hold <;> cases digit
    | transfer opened => cases digit
    | key armed =>
        have active := known.armed (by rw [point]; rfl) armed
        simp only [NativeDtmfMode.active, Bool.and_eq_true, decide_eq_true_eq] at active
        obtain ⟨⟨⟨-, session⟩, call⟩, -⟩ := active
        rw [← session, ← call]
        refine switched.armed armed fun toggling => ?_
        cases point.symm.trans toggling

end AxeVoice.Desktop
