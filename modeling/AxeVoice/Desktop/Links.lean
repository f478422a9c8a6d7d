import AxeVoice.Desktop.Outcomes

/-!
# Links that ask for a dial

A link that another program hands over never dials by itself.  It fills the field
and opens a message box; what the user confirms is dialed from the field, like a
press of the button.  The message box shows what the field holds when it opens.
-/

namespace AxeVoice.Desktop

open Command Cti Foundation Native Sip

variable {width : WCharWidth} {ctype : WideCtype width} {history : List (DeskStage width)}
  {desktop : VoiceDesktop width} {move : DeskMove width}

/-- The user presses the button, or confirms the innermost message box. -/
inductive Presses (stage : DeskStage width) : Prop
  | button (input : stage.input = .message .callButton) (idle : stage.before.point = .idle)
  | confirmed (input : stage.input = .message (.answer true)) (idle : stage.before.point = .idle)
      (opened : stage.before.prompts ≠ [])

/-- The text that is being dialed for the button. -/
def DeskPoint.pressed : DeskPoint width → Option (WString width)
  | .dialing .button typed | .authorizing .button typed _ | .rechecking .button typed _ _
  | .recording .button typed _ _ | .submitting .button typed _ _ => some typed
  | _ => none

/-- The button was pressed with this text in the field, which is being dialed since. -/
def Pressed (history : List (DeskStage width)) (typed : WString width) : Prop :=
  ∃ older press during, history = older ++ press :: during ∧ Presses press ∧
    typed = press.before.number.take 255 ∧
      ∀ stage ∈ during, stage.before.point.pressed = some typed

theorem pressed_handle (idle : desktop.point = .idle) {message : DeskMessage width}
    {typed : WString width} (dialing : (desktop.handle ctype message).2.point.pressed = some typed) :
    Presses (stageOf (deskStep ctype) desktop (.message message)) ∧
      typed = desktop.number.take 255 := by
  have resting : desktop.point.pressed = none := by
    rw [idle]
    rfl
  cases message with
  | callButton =>
      cases dialing
      exact ⟨.button rfl idle, rfl⟩
  | answer yes =>
      simp only [VoiceDesktop.handle, VoiceDesktop.answer] at dialing
      split at dialing
      · cases resting.symm.trans dialing
      · next opened =>
          cases yes with
          | false => cases dialing
          | true =>
              cases dialing
              refine ⟨.confirmed rfl idle ?_, rfl⟩
              change desktop.prompts ≠ []
              rw [opened]
              exact List.cons_ne_nil _ _
  | timer | refresh => cases dialing
  | edit | shutdown => cases resting.symm.trans dialing
  | asyncCti =>
      simp only [VoiceDesktop.handle] at dialing
      split at dialing <;> cases dialing
  | copyData uri posted =>
      simp only [VoiceDesktop.handle, VoiceDesktop.copyData] at dialing
      split at dialing <;> cases resting.symm.trans dialing
  | externalClick =>
      simp only [VoiceDesktop.handle, VoiceDesktop.externalClick] at dialing
      split at dialing
      · cases resting.symm.trans dialing
      · split at dialing
        · cases resting.symm.trans dialing
        · cases dialing
  | call move =>
      simp only [VoiceDesktop.handle] at dialing
      split at dialing <;> cases resting.symm.trans dialing

theorem pressed_gui {typed : WString width}
    (dialing : (desktop.guiStep ctype).2.point.pressed = some typed) :
    desktop.point.pressed = some typed := by
  cases point : desktop.point with
  | idle =>
      simp only [VoiceDesktop.guiStep, point] at dialing
      cases dialing
  | refreshing | judging | taken | completing | linking =>
      simp only [VoiceDesktop.guiStep, point] at dialing
      cases dialing
  | publishing timer =>
      simp only [VoiceDesktop.guiStep, point] at dialing
      split at dialing
      · cases timer <;> cases dialing
      · cases dialing
  | rejecting timer =>
      simp only [VoiceDesktop.guiStep, point] at dialing
      cases timer <;> cases dialing
  | taking | asking =>
      simp only [VoiceDesktop.guiStep, point] at dialing
      split at dialing <;> cases dialing
  | granting =>
      simp only [VoiceDesktop.guiStep, point] at dialing
      split at dialing <;> cases dialing
  | dialing source =>
      simp only [VoiceDesktop.guiStep, point] at dialing
      cases source with
      | button => exact dialing
      | request => cases dialing
  | authorizing source | rechecking source =>
      simp only [VoiceDesktop.guiStep, point] at dialing
      split at dialing
      · cases source <;> cases dialing
      · cases source with
        | button => exact dialing
        | request => cases dialing
  | recording source =>
      simp only [VoiceDesktop.guiStep, point] at dialing
      split at dialing
      · cases source with
        | button => exact dialing
        | request => cases dialing
      · cases source <;> cases dialing
  | submitting source =>
      simp only [VoiceDesktop.guiStep, point] at dialing
      split at dialing
      · cases source <;> cases dialing
      · cases source <;> cases dialing

/-- A dial of the button goes on, or the button is pressed. -/
theorem pressed_step {typed : WString width}
    (dialing : (deskStep ctype desktop move).2.point.pressed = some typed) :
    desktop.point.pressed = some typed ∨
      Presses (stageOf (deskStep ctype) desktop move) ∧ typed = desktop.number.take 255 := by
  cases move with
  | worker request => exact .inl dialing
  | gui => exact .inl (pressed_gui dialing)
  | owner move =>
      left
      simp only [deskStep] at dialing
      split at dialing <;> exact dialing
  | message message =>
      simp only [deskStep] at dialing
      split at dialing
      · next idle => exact .inr (pressed_handle idle dialing)
      · exact .inl dialing

theorem pressed_run (ctype : WideCtype width) (link : Option (WString width))
    (moves : List (DeskMove width)) {typed : WString width}
    (dialing : (deskEnd ctype link moves).point.pressed = some typed) :
    Pressed (deskRun ctype link moves) typed := by
  refine @history_invariant _ _ _ (deskStep ctype)
    (fun history desktop => ∀ typed, desktop.point.pressed = some typed → Pressed history typed)
    (fun _ => True) ?_ [] _ (fun _ dialing => by cases dialing) moves (fun _ _ => trivial) typed dialing
  intro history desktop move known _ typed dialing
  rcases pressed_step dialing with before | ⟨presses, text⟩
  · obtain ⟨older, press, during, rfl, presses, text, kept⟩ := known typed before
    exact ⟨older, press, during ++ [stageOf (deskStep ctype) desktop move], by simp, presses, text,
      forall_mem_concat kept before⟩
  · exact ⟨history, stageOf (deskStep ctype) desktop move, [], rfl, presses, text, by simp⟩

/-- A message box opens and asks about a destination. -/
def Prompts (stage : DeskStage width) (destination : WString width) : Prop :=
  stage.after.prompts = destination :: stage.before.prompts

/-- The destination of the link that is being looked at. -/
def DeskPoint.linked : DeskPoint width → Option (WString width)
  | .linking destination | .asking destination _ => some destination
  | _ => none

/-- The field holds the destination of the link that is being looked at. -/
def Fills (desktop : VoiceDesktop width) : Prop :=
  ∀ destination, desktop.point.linked = some destination →
    desktop.number = destination ∧ destination.length ≤ 128

theorem linked_dialed (desktop : VoiceDesktop width) (submitted : Bool) (source : DialSource) :
    (desktop.dialed submitted source).point.linked = none := by
  cases source <;> rfl

theorem parsed_length {uri destination : WString width}
    (parsed : parseAxvoiceClickToCallUri ctype uri = some destination) :
    destination.length ≤ 128 := by
  unfold parseAxvoiceClickToCallUri at parsed
  split at parsed
  · cases parsed
  · obtain ⟨value, -, normal⟩ := Option.bind_eq_some_iff.mp parsed
    unfold normalizedDestination at normal
    dsimp only at normal
    split at normal
    · cases normal
    · next passed =>
        cases normal
        simp only [Bool.or_eq_true, decide_eq_true_eq, not_or, Nat.not_lt] at passed
        exact passed.2

theorem linked_gui {destination : WString width}
    (linked : (desktop.guiStep ctype).2.point.linked = some destination) :
    desktop.point.linked = some destination ∧ (desktop.guiStep ctype).2.number = desktop.number := by
  cases point : desktop.point with
  | linking =>
      simp only [VoiceDesktop.guiStep, point] at linked ⊢
      exact ⟨linked, trivial⟩
  | idle | refreshing | judging | taken | dialing | completing =>
      simp only [VoiceDesktop.guiStep, point] at linked
      cases linked
  | publishing timer =>
      simp only [VoiceDesktop.guiStep, point] at linked
      split at linked
      · cases timer <;> cases linked
      · cases linked
  | rejecting timer =>
      simp only [VoiceDesktop.guiStep, point] at linked
      cases timer <;> cases linked
  | taking | asking =>
      simp only [VoiceDesktop.guiStep, point] at linked
      split at linked <;> cases linked
  | granting | authorizing | rechecking =>
      simp only [VoiceDesktop.guiStep, point] at linked
      split at linked
      · rw [linked_dialed] at linked
        cases linked
      · cases linked
  | recording =>
      simp only [VoiceDesktop.guiStep, point] at linked
      split at linked
      · cases linked
      · rw [linked_dialed] at linked
        cases linked
  | submitting =>
      simp only [VoiceDesktop.guiStep, point] at linked
      split at linked
      · rw [linked_dialed] at linked
        cases linked
      · rw [linked_dialed] at linked
        cases linked

theorem fills_handle (idle : desktop.point = .idle) (message : DeskMessage width) :
    Fills (desktop.handle ctype message).2 := by
  intro destination linked
  have resting : desktop.point.linked = none := by
    rw [idle]
    rfl
  cases message with
  | externalClick =>
      simp only [VoiceDesktop.handle, VoiceDesktop.externalClick] at linked ⊢
      split at linked
      · cases resting.symm.trans linked
      · next uri pending =>
          split at linked
          · cases resting.symm.trans linked
          · next parsed =>
              cases linked
              exact ⟨rfl, parsed_length parsed⟩
  | timer | refresh | callButton => cases linked
  | edit | shutdown => cases resting.symm.trans linked
  | asyncCti =>
      simp only [VoiceDesktop.handle] at linked
      split at linked <;> cases linked
  | copyData uri posted =>
      simp only [VoiceDesktop.handle, VoiceDesktop.copyData] at linked
      split at linked <;> cases resting.symm.trans linked
  | answer yes =>
      simp only [VoiceDesktop.handle, VoiceDesktop.answer] at linked
      split at linked
      · cases resting.symm.trans linked
      · cases yes <;> cases linked
  | call move =>
      simp only [VoiceDesktop.handle] at linked
      split at linked <;> cases resting.symm.trans linked

theorem fills_step (fills : Fills desktop) (move : DeskMove width) :
    Fills (deskStep ctype desktop move).2 := by
  cases move with
  | worker request => exact fills
  | owner move =>
      simp only [deskStep]
      split <;> exact fills
  | message message =>
      simp only [deskStep]
      split
      · next idle => exact fills_handle idle message
      · exact fills
  | gui =>
      intro destination linked
      obtain ⟨before, number⟩ := linked_gui linked
      obtain ⟨filled, short⟩ := fills destination before
      exact ⟨number.trans filled, short⟩

/-- Elsewhere the interface opens no message box, and takes no link over. -/
theorem prompts_gui (elsewhere : ∀ filled observed, desktop.point ≠ .asking filled observed) :
    (desktop.guiStep ctype).2.prompts = desktop.prompts ∧
      (desktop.guiStep ctype).2.externalClickUri = desktop.externalClickUri := by
  have dialed (desktop : VoiceDesktop width) (submitted : Bool) (source : DialSource) :
      (desktop.dialed submitted source).prompts = desktop.prompts ∧
        (desktop.dialed submitted source).externalClickUri = desktop.externalClickUri := by
    cases source <;> exact ⟨rfl, rfl⟩
  cases point : desktop.point with
  | asking filled observed => exact absurd point (elsewhere filled observed)
  | idle | refreshing | judging | rejecting | taking | taken | dialing | completing | linking =>
      rw [VoiceDesktop.guiStep, point]
      exact ⟨rfl, rfl⟩
  | publishing =>
      simp only [VoiceDesktop.guiStep, point]
      split <;> exact ⟨rfl, rfl⟩
  | granting | authorizing | rechecking =>
      simp only [VoiceDesktop.guiStep, point]
      split
      · exact dialed _ _ _
      · exact ⟨rfl, rfl⟩
  | recording =>
      simp only [VoiceDesktop.guiStep, point]
      split
      · exact ⟨rfl, rfl⟩
      · exact dialed _ _ _
  | submitting =>
      simp only [VoiceDesktop.guiStep, point]
      split
      · exact dialed _ _ _
      · exact dialed _ _ _

/-- What a message does to the open message boxes. -/
theorem prompts_handle (desktop : VoiceDesktop width) (message : DeskMessage width) :
    (desktop.handle ctype message).2.prompts = desktop.prompts ∨
      (desktop.handle ctype message).2.prompts = desktop.prompts.tail := by
  cases message with
  | timer | refresh | callButton | edit | shutdown | asyncCti => exact .inl rfl
  | copyData uri posted =>
      left
      simp only [VoiceDesktop.handle, VoiceDesktop.copyData]
      split <;> rfl
  | externalClick =>
      left
      simp only [VoiceDesktop.handle, VoiceDesktop.externalClick]
      split
      · rfl
      · split <;> rfl
  | answer yes =>
      right
      simp only [VoiceDesktop.handle, VoiceDesktop.answer]
      split
      · next closed => rw [closed]; rfl
      · next opened => rw [opened]; rfl
  | call move =>
      left
      simp only [VoiceDesktop.handle]
      split <;> rfl

/-- Only the handler of a link opens a message box, behind a permission to dial. -/
theorem asks_step {destination : WString width}
    (asks : Prompts (stageOf (deskStep ctype) desktop move) destination) :
    ∃ filled, desktop.point.linked = some filled ∧
      (deskStep ctype desktop move).2.number = desktop.number ∧
        validateAddress ctype filled = ⟨.none, destination⟩ := by
  change (deskStep ctype desktop move).2.prompts = destination :: desktop.prompts at asks
  have longer : (deskStep ctype desktop move).2.prompts.length = desktop.prompts.length + 1 :=
    (congrArg List.length asks).trans List.length_cons
  cases move with
  | worker request =>
      exact absurd longer (Nat.ne_of_lt (Nat.lt_succ_self _))
  | owner move =>
      simp only [deskStep] at longer
      split at longer <;> exact absurd longer (Nat.ne_of_lt (Nat.lt_succ_self _))
  | message message =>
      exfalso
      simp only [deskStep] at longer
      split at longer
      · rcases @prompts_handle _ ctype desktop message with same | shorter
        · rw [same] at longer
          omega
        · rw [shorter, List.length_tail] at longer
          omega
      · exact absurd longer (Nat.ne_of_lt (Nat.lt_succ_self _))
  | gui =>
      simp only [deskStep] at longer asks ⊢
      cases point : desktop.point with
      | asking filled observed =>
          refine ⟨filled, rfl, ?_⟩
          simp only [VoiceDesktop.guiStep, point] at longer asks ⊢
          split at longer
          · exact absurd longer (Nat.ne_of_lt (Nat.lt_succ_self _))
          · next permitted =>
              rw [if_neg permitted] at asks ⊢
              refine ⟨rfl, ?_⟩
              rw [← (List.cons.inj asks).1]
              exact authorizeCallCommand_normalized (by simpa using permitted)
      | _ =>
          rw [(prompts_gui (by rw [point]; nofun)).1] at longer
          omega

/-! ## One confirmation for each link -/

def DeskPoint.isIdle : DeskPoint width → Bool
  | .idle => true
  | _ => false

/-- The user confirms the innermost message box. -/
def confirms (stage : DeskStage width) : Bool :=
  match stage.input with
  | .message (.answer true) => stage.before.point.isIdle && !stage.before.prompts.isEmpty
  | _ => false

/-- A link is taken over. -/
def takesOver (stage : DeskStage width) : Bool :=
  stage.before.externalClickUri.isNone && stage.after.externalClickUri.isSome

/-- The links that are waiting, looked at, or asked about. -/
def VoiceDesktop.openLinks (desktop : VoiceDesktop width) : ℕ :=
  desktop.prompts.length + desktop.point.linked.isSome.toNat +
    desktop.externalClickUri.isSome.toNat

theorem openLinks_still {after : VoiceDesktop width} (prompts : after.prompts = desktop.prompts)
    (uri : after.externalClickUri = desktop.externalClickUri) (linked : after.point.linked = none) :
    after.openLinks ≤ desktop.openLinks := by
  unfold VoiceDesktop.openLinks
  rw [prompts, uri, linked]
  simp

theorem openLinks_handle (idle : desktop.point = .idle) (message : DeskMessage width) :
    (confirms (stageOf (deskStep ctype) desktop (.message message))).toNat +
        (desktop.handle ctype message).2.openLinks ≤
      desktop.openLinks +
        (desktop.externalClickUri.isNone &&
          (desktop.handle ctype message).2.externalClickUri.isSome).toNat := by
  have resting : desktop.point.linked = none := by
    rw [idle]
    rfl
  have quiet {after : VoiceDesktop width} (still : after.openLinks ≤ desktop.openLinks)
      (unconfirmed : confirms (stageOf (deskStep ctype) desktop (.message message)) = false) :
      (confirms (stageOf (deskStep ctype) desktop (.message message))).toNat + after.openLinks ≤
        desktop.openLinks +
          (desktop.externalClickUri.isNone && after.externalClickUri.isSome).toNat := by
    rw [unconfirmed]
    simp only [Bool.toNat_false]
    omega
  cases message with
  | timer | refresh | callButton => exact quiet (openLinks_still rfl rfl rfl) rfl
  | edit | shutdown => exact quiet (openLinks_still rfl rfl resting) rfl
  | asyncCti =>
      refine quiet (openLinks_still rfl rfl ?_) rfl
      simp only [VoiceDesktop.handle]
      split <;> rfl
  | call move =>
      refine quiet ?_ rfl
      simp only [VoiceDesktop.handle]
      split
      · exact openLinks_still rfl rfl resting
      · exact openLinks_still rfl rfl resting
  | copyData uri posted =>
      simp only [VoiceDesktop.handle, VoiceDesktop.copyData]
      split
      · exact quiet (openLinks_still rfl rfl resting) rfl
      · next free =>
          have none_ : desktop.externalClickUri = none := by
            simp only [Bool.or_eq_true, not_or] at free
            simpa using free.1.1.1.1.1
          simp only [VoiceDesktop.openLinks, none_, confirms, stageOf]
          simp
  | externalClick =>
      simp only [VoiceDesktop.handle, VoiceDesktop.externalClick]
      split
      · exact quiet (openLinks_still rfl rfl resting) rfl
      · next uri pending =>
          split
          · simp [VoiceDesktop.openLinks, pending, resting, confirms, stageOf]
          · simp [VoiceDesktop.openLinks, pending, confirms, stageOf, DeskPoint.linked]
  | answer yes =>
      simp only [VoiceDesktop.handle, VoiceDesktop.answer]
      split
      · next closed =>
          refine quiet (openLinks_still rfl rfl resting) ?_
          cases yes <;> simp [confirms, stageOf, closed]
      · next destination prompts opened =>
          have fewer : desktop.prompts.length = prompts.length + 1 := by
            rw [opened, List.length_cons]
          cases yes with
          | false =>
              refine quiet ?_ rfl
              unfold VoiceDesktop.openLinks
              rw [fewer, resting]
              simp [DeskPoint.linked]
          | true =>
              simp only [VoiceDesktop.openLinks, confirms, stageOf, idle, opened]
              simp [DeskPoint.linked, DeskPoint.isIdle]
              omega

theorem openLinks_gui : (desktop.guiStep ctype).2.openLinks ≤ desktop.openLinks := by
  by_cases asking : ∃ filled observed, desktop.point = .asking filled observed
  · obtain ⟨filled, observed, point⟩ := asking
    simp only [VoiceDesktop.guiStep, point]
    split
    · simp only [VoiceDesktop.openLinks, point, DeskPoint.linked]
      simp
    · simp only [VoiceDesktop.openLinks, point, DeskPoint.linked]
      simp
  · have kept := @prompts_gui _ ctype _ fun filled observed point =>
      asking ⟨filled, observed, point⟩
    unfold VoiceDesktop.openLinks
    rw [kept.1, kept.2]
    cases linked : (desktop.guiStep ctype).2.point.linked with
    | none => simp
    | some destination => rw [(linked_gui linked).1]

theorem openLinks_step (desktop : VoiceDesktop width) (move : DeskMove width) :
    (confirms (stageOf (deskStep ctype) desktop move)).toNat +
        (deskStep ctype desktop move).2.openLinks ≤
      desktop.openLinks + (takesOver (stageOf (deskStep ctype) desktop move)).toNat := by
  cases move with
  | worker request => exact Nat.le_trans (Nat.le_of_eq (Nat.zero_add _)) (Nat.le_add_right _ _)
  | gui =>
      refine Nat.le_trans (Nat.le_of_eq (Nat.zero_add _)) ?_
      exact Nat.le_trans openLinks_gui (Nat.le_add_right _ _)
  | owner move =>
      refine Nat.le_trans (Nat.le_of_eq (Nat.zero_add _)) (Nat.le_trans ?_ (Nat.le_add_right _ _))
      simp only [deskStep]
      split <;> exact Nat.le_refl _
  | message message =>
      by_cases idle : desktop.point = .idle
      · have handled : deskStep ctype desktop (.message message) = desktop.handle ctype message := by
          simp only [deskStep, idle]
        have step := @openLinks_handle _ ctype _ idle message
        simp only [takesOver, stageOf, handled]
        exact step
      · have waits : deskStep ctype desktop (.message message) = (.nothing, desktop) := by
          simp only [deskStep]
        have busy : desktop.point.isIdle = false := by
          cases point : desktop.point with
          | idle => exact absurd point idle
          | _ => rfl
        have unconfirmed : confirms (stageOf (deskStep ctype) desktop (.message message)) = false := by
          unfold confirms
          split
          · simp only [stageOf, busy, Bool.false_and]
          · rfl
        rw [unconfirmed, waits]
        simp

theorem openLinks_run (ctype : WideCtype width) (link : Option (WString width))
    (moves : List (DeskMove width)) :
    (deskRun ctype link moves).countP confirms + (deskEnd ctype link moves).openLinks ≤
      (deskRun ctype link moves).countP takesOver + link.isSome.toNat := by
  refine @history_invariant _ _ _ (deskStep ctype)
    (fun history desktop => history.countP confirms + desktop.openLinks ≤
      history.countP takesOver + link.isSome.toNat) (fun _ => True) ?_ [] _ ?_ moves fun _ _ => trivial
  · intro history desktop move known _
    have step := @openLinks_step _ ctype desktop move
    have unit (holds : Bool) : (if holds = true then 1 else 0) = holds.toNat := by
      cases holds <;> rfl
    rw [List.countP_append, List.countP_append, List.countP_singleton, List.countP_singleton, unit,
      unit]
    omega
  · have none_ : (VoiceDesktop.launched ctype link).openLinks =
        (VoiceDesktop.launched ctype link).externalClickUri.isSome.toNat := by
      simp [VoiceDesktop.openLinks, VoiceDesktop.launched, DeskPoint.linked]
    rw [none_, List.countP_nil, List.countP_nil, Nat.zero_add, Nat.zero_add]
    cases link with
    | none => exact Nat.le_refl _
    | some uri => exact Bool.toNat_le _

/-- How links come to be dialed. -/
structure LinksConfirmed (locale : LocaleCtype width) (link : Option (WString width))
    (moves : List (DeskMove width)) : Prop where
  /-- A dial that is no request's is that of a press, of what the field held. -/
  pressed : ∀ before accept after uri,
    deskRun locale.toWideCtype link moves = before ++ accept :: after →
      AcceptsDial accept .button uri → ∃ older press during, before = older ++ press :: during ∧
        Presses press ∧
        (∀ stage ∈ during, stage.before.point.pressed = some (press.before.number.take 255)) ∧
        (nativeCallDestinationResult locale.toWideCtype (press.before.number.take 255)
          accept.before.calls.engine.account).succeeds = true ∧
        (nativeCallDestinationResult locale.toWideCtype (press.before.number.take 255)
          accept.before.calls.engine.account).uri = uri
  /-- A message box that opens shows what the field would dial. -/
  shown : ∀ stage ∈ deskRun locale.toWideCtype link moves, ∀ destination, Prompts stage destination →
    validateAddress locale.toWideCtype (stage.after.number.take 255) = ⟨.none, destination⟩
  /-- Every confirmation uses a link up. -/
  counted : (deskRun locale.toWideCtype link moves).countP confirms ≤
    (deskRun locale.toWideCtype link moves).countP takesOver + link.isSome.toNat

theorem links_confirmed (locale : LocaleCtype width) (link : Option (WString width))
    (moves : List (DeskMove width)) : LinksConfirmed locale link moves := by
  refine ⟨?_, ?_, ?_⟩
  · intro before accept after uri split accepts
    obtain ⟨first, move, rest, rfl, rfl, rfl, -⟩ := stages_split split
    obtain ⟨-, -, typed, observed, point⟩ := accepts
    change (deskEnd locale.toWideCtype link first).point = _ at point
    have known := (truthful_run locale.toWideCtype link first).known
    rw [point] at known
    obtain ⟨-, destination, normal, succeeds, dialed⟩ := known
    obtain ⟨older, press, during, same, presses, rfl, kept⟩ :=
      @pressed_run _ locale.toWideCtype link first typed (by rw [point]; rfl)
    exact ⟨older, press, during, same, presses, kept, dialed_of_normalized normal ⟨succeeds, dialed⟩⟩
  · refine @stages_forall _ _ _ _ Fills _ (fun _ move fills => fills_step fills move) ?_ _ ?_ moves
    · intro desktop move fills destination asks
      obtain ⟨filled, linked, number, valid⟩ := asks_step asks
      obtain ⟨rfl, short⟩ := fills filled linked
      change validateAddress _ ((deskStep locale.toWideCtype desktop move).2.number.take 255) = _
      rw [number, List.take_of_length_le (by omega)]
      exact valid
    · intro destination linked
      cases linked
  · exact Nat.le_trans (Nat.le_add_right _ _) (openLinks_run locale.toWideCtype link moves)

end AxeVoice.Desktop
