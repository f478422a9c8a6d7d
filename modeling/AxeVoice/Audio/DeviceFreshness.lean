import AxeVoice.Audio.DevicePanel
import AxeVoice.Foundation.Component

/-!
# What the panel of the audio devices shows is fresh

What the panel shows as current is what the drivers have answered to a question
that was asked behind the last change of the devices, unless that change still
waits for the timer.  Whatever the threads do meanwhile, no change is lost, and no
device is selected that the user, or the session, has not chosen.
-/

namespace AxeVoice.Audio

open Foundation Native

variable {width : WCharWidth}

@[simp] theorem applyAudioInventory_worker (panel : AudioPanel width)
    (inventory : AudioInventory width) (route : SessionRoute width) :
    (panel.applyAudioInventory inventory route).worker = panel.worker := by
  unfold AudioPanel.applyAudioInventory
  dsimp only
  split <;> rfl

@[simp] theorem finish_worker (panel : AudioPanel width) (route : SessionRoute width)
    (observed : Option (InventoryObserved width)) (op : PanelOp) :
    (panel.finish route observed op).worker = panel.worker := by
  cases op with
  | enter | takeChanged | changed | request | leave | close => rfl
  | refreshDue | launchFailed =>
      simp only [AudioPanel.finish]
      split <;> rfl
  | pollInventory =>
      simp only [AudioPanel.finish]
      split
      · rfl
      · split <;> rfl
  | start =>
      simp only [AudioPanel.finish]
      split <;> rfl
  | take =>
      simp only [AudioPanel.finish]
      split
      · exact applyAudioInventory_worker _ _ _
      · rfl

/-- What stays as it is when the user chooses devices. -/
structure SameDevices (before after : AudioPanel width) : Prop where
  worker : after.worker = before.worker
  watcher : after.watcher = before.watcher
  policy : after.policy = before.policy
  current : after.current = before.current
  inputs : after.inputs = before.inputs
  outputs : after.outputs = before.outputs

namespace SameDevices

variable {panel after : AudioPanel width}

theorem refl (panel : AudioPanel width) : SameDevices panel panel := ⟨rfl, rfl, rfl, rfl, rfl, rfl⟩

theorem trans {last : AudioPanel width} (first : SameDevices panel after)
    (second : SameDevices after last) : SameDevices panel last :=
  ⟨second.worker.trans first.worker, second.watcher.trans first.watcher,
    second.policy.trans first.policy, second.current.trans first.current,
    second.inputs.trans first.inputs, second.outputs.trans first.outputs⟩

theorem prefer (panel : AudioPanel width) (rows : AudioRole → Option ℕ) (role : AudioRole) :
    SameDevices panel (panel.prefer rows role) := by
  unfold AudioPanel.prefer
  split <;> exact ⟨rfl, rfl, rfl, rfl, rfl, rfl⟩

theorem acceptPreferences (panel : AudioPanel width) (rows : AudioRole → Option ℕ)
    (route : SessionRoute width) : SameDevices panel (panel.acceptPreferences rows route) := by
  unfold AudioPanel.acceptPreferences
  dsimp only
  split
  · exact ((prefer panel rows .input).trans (prefer _ rows .output)).trans (prefer _ rows .ringtone)
  · exact prefer panel rows .ringtone

theorem handle (panel : AudioPanel width) (message : PanelMessage width) :
    SameDevices panel (panel.handle message) := by
  cases message with
  | timer | showPage | refreshButton | openPreferences | destroy => exact ⟨rfl, rfl, rfl, rfl, rfl, rfl⟩
  | deviceChange kind now =>
      simp only [AudioPanel.handle]
      split <;> exact ⟨rfl, rfl, rfl, rfl, rfl, rfl⟩
  | choose role row route =>
      simp only [AudioPanel.handle, AudioPanel.choose]
      split
      · exact .refl panel
      · split <;> exact ⟨rfl, rfl, rfl, rfl, rfl, rfl⟩
  | closePreferences rows route =>
      simp only [AudioPanel.handle]
      split
      · next rows _ =>
          obtain ⟨worker, watcher, policy, current, inputs, outputs⟩ :=
            acceptPreferences panel rows route
          exact ⟨worker, watcher, policy, current, inputs, outputs⟩
      · exact ⟨rfl, rfl, rfl, rfl, rfl, rfl⟩

theorem message (panel : AudioPanel width) (message : PanelMessage width) :
    SameDevices panel (panelStep panel (.message message)).2 := by
  simp only [panelStep]
  split
  · exact handle panel message
  · exact .refl panel

end SameDevices

/-- The step of the inventory in a step of the panel. -/
def inventoryAsked (panel : AudioPanel width) : PanelMove width → Option (InventoryMove width)
  | .gui movedFrom _ => panel.todo.head?.bind (AudioPanel.asked movedFrom)
  | .probed thread answer => some (.probed thread answer)
  | .completed thread => some (.completed thread)
  | .message _ | .callback _ _ | .startWatcher _ => none

theorem guiStep_idle {panel : AudioPanel width} (idle : panel.todo = [])
    (movedFrom : AudioInventory width) (route : SessionRoute width) :
    panel.guiStep movedFrom route = (.nothing, panel) := by
  simp only [AudioPanel.guiStep, idle]

theorem guiStep_rests {panel : AudioPanel width} {op : PanelOp} {rest : List PanelOp}
    (known : panel.todo = op :: rest) {movedFrom : AudioInventory width}
    (rests : AudioPanel.asked movedFrom op = none) (route : SessionRoute width) :
    panel.guiStep movedFrom route = (.nothing, { panel with todo := rest }.finish route none op) := by
  simp only [AudioPanel.guiStep, known, rests]

theorem guiStep_asks {panel : AudioPanel width} {op : PanelOp} {rest : List PanelOp}
    (known : panel.todo = op :: rest) {movedFrom : AudioInventory width}
    {move : InventoryMove width} (asks : AudioPanel.asked movedFrom op = some move)
    (route : SessionRoute width) :
    panel.guiStep movedFrom route = (.worker (inventoryStep panel.worker move).1,
      { panel with todo := rest, worker := (inventoryStep panel.worker move).2 }.finish route
        (some (inventoryStep panel.worker move).1) op) := by
  simp only [AudioPanel.guiStep, known, asks]

def inventoryPart : Component (@panelStep width) (@inventoryStep width) where
  part := AudioPanel.worker
  asked := inventoryAsked
  moves {panel move inner} asked := by
    cases move with
    | gui movedFrom route =>
        cases known : panel.todo with
        | nil =>
            rw [inventoryAsked, known] at asked
            cases asked
        | cons op rest =>
            have asks : AudioPanel.asked movedFrom op = some inner := by
              rw [inventoryAsked, known] at asked
              exact asked
            simp only [panelStep, guiStep_asks known asks, finish_worker]
    | probed thread answer =>
        cases asked
        rfl
    | completed thread =>
        cases asked
        rfl
    | message | callback | startWatcher => cases asked
  rests {panel move} asked := by
    cases move with
    | gui movedFrom route =>
        cases known : panel.todo with
        | nil => simp only [panelStep, guiStep_idle known]
        | cons op rest =>
            have rests : AudioPanel.asked movedFrom op = none := by
              rw [inventoryAsked, known] at asked
              exact asked
            simp only [panelStep, guiStep_rests known rests, finish_worker]
    | message message => exact (SameDevices.message panel message).worker
    | callback | startWatcher => rfl
    | probed | completed => cases asked

/-- The observer that is registered has a signal that is open. -/
def WatcherSound (watcher : AudioEndpointWatcher) : Prop :=
  watcher.registered = true → watcher.current = some .clean ∨ watcher.current = some .dirty

namespace AudioEndpointWatcher

variable {watcher : AudioEndpointWatcher}

theorem current_some {signal : AudioDeviceChangeSignal} (known : watcher.current = some signal) :
    ∃ index, watcher.signal = some index ∧ watcher.signals[index]? = some signal :=
  Option.bind_eq_some_iff.mp known

theorem current_changeSignal {index : ℕ} {signal : AudioDeviceChangeSignal}
    (known : watcher.current = some signal)
    (change : AudioDeviceChangeSignal → AudioDeviceChangeSignal) :
    (watcher.changeSignal index change).current =
      some (if watcher.signal = some index then change signal else signal) := by
  obtain ⟨own, same, here⟩ := current_some known
  unfold current changeSignal
  simp only [same, Option.bind_some, List.getElem?_modify, here]
  by_cases hit : index = own
  · simp [hit]
  · simp [hit, Ne.symm hit]

theorem start_registered (failure : Option WatcherFailure) :
    (watcher.start failure).2 = watcher ∨
      watcher.registered = false ∧ ((watcher.start failure).2.registered = true →
        (watcher.start failure).2.current = some .clean) := by
  unfold start
  split
  · exact .inl rfl
  · next free =>
      refine .inr ⟨Bool.eq_false_iff.mpr free, ?_⟩
      dsimp only
      split
      · exact fun registered => by cases registered
      split
      · exact fun registered => by cases registered
      split
      · exact fun registered => by cases registered
      split
      · exact fun registered => by cases registered
      · exact fun _ => by simp [current]

theorem takeChanged_of_current {index : ℕ} {signal : AudioDeviceChangeSignal}
    (registered : watcher.registered = true) (same : watcher.signal = some index)
    (known : watcher.current = some signal) :
    watcher.takeChanged = (signal.take.1, watcher.changeSignal index fun _ => signal.take.2) := by
  simp only [takeChanged, registered, same, known]

theorem takeChanged_cases (sound : WatcherSound watcher) :
    watcher.takeChanged.1 = false ∧ watcher.takeChanged.2.registered = watcher.registered ∧
        watcher.takeChanged.2.current = watcher.current ∧
        (watcher.registered = true → watcher.current ≠ some .dirty) ∨
      watcher.takeChanged.1 = true ∧ watcher.takeChanged.2.current = some .clean := by
  cases registered : watcher.registered with
  | false =>
      refine .inl ?_
      simp [takeChanged, registered]
  | true =>
      rcases sound registered with clean | dirty
      · obtain ⟨index, same, -⟩ := current_some clean
        have after := @current_changeSignal _ index _ clean fun _ => .clean
        rw [takeChanged_of_current registered same clean]
        refine .inl ⟨rfl, registered, ?_, fun _ other => ?_⟩
        · rw [clean]
          simpa [same, AudioDeviceChangeSignal.take] using after
        · cases clean.symm.trans other
      · obtain ⟨index, same, -⟩ := current_some dirty
        have after := @current_changeSignal _ index _ dirty fun _ => .clean
        rw [takeChanged_of_current registered same dirty]
        exact .inr ⟨rfl, by simpa [same, AudioDeviceChangeSignal.take] using after⟩

/-- A notification sets the signal of its observer, and never another one. -/
theorem current_callback {signal : AudioDeviceChangeSignal} (known : watcher.current = some signal)
    (index : ℕ) (notification : EndpointNotification) :
    (watcher.callback index notification).current =
      some (if notification.notifies && watcher.signal = some index then signal.notify
        else signal) := by
  unfold callback
  split
  · next notifies =>
      rw [current_changeSignal known, notifies]
      simp
  · next silent =>
      rw [known, if_neg]
      simp [silent]

theorem callback_registered (index : ℕ) (notification : EndpointNotification) :
    (watcher.callback index notification).registered = watcher.registered := by
  unfold callback
  split <;> rfl

end AudioEndpointWatcher

/-- The system tells of a change, and the panel can see it. -/
def Notifies (stage : PanelStage width) : Prop :=
  (∃ observer notification, stage.input = .callback observer notification ∧
    notification.notifies = true ∧ stage.before.watcher.registered = true ∧
      stage.before.watcher.signal = some observer) ∨
  ∃ kind now, stage.input = .message (.deviceChange kind now) ∧ isAudioDeviceChange kind = true ∧
    stage.before.todo = []

/-- After this stage no earlier question to the drivers is wanted. -/
def Replaced (stage : PanelStage width) : Prop :=
  ∃ inner, inventoryPart.within stage = some inner ∧ Replaces inner

/-- A change that the panel has not dropped its inventory for. -/
def AudioPanel.Unseen (panel : AudioPanel width) : Prop :=
  panel.watcher.registered = true ∧ panel.watcher.current = some .dirty ∨
    ∃ now, .changed now ∈ panel.todo

/-- The change that waits, and the observer that is in place. -/
structure Noticing (history : List (PanelStage width)) (panel : AudioPanel width) : Prop where
  watched : WatcherSound panel.watcher
  noticed : Outstanding Notifies Replaced history → panel.Unseen

/-- An operation leaves what is still to be done to be done. -/
theorem mem_finish_todo {panel : AudioPanel width} {waiting : PanelOp} (member : waiting ∈ panel.todo)
    (route : SessionRoute width) (observed : Option (InventoryObserved width)) (op : PanelOp) :
    waiting ∈ (panel.finish route observed op).todo := by
  cases op with
  | enter | changed | request | leave | close => exact member
  | takeChanged now =>
      simp only [AudioPanel.finish]
      split
      · exact List.mem_cons_of_mem _ member
      · exact member
  | refreshDue now dropdownOpen requested =>
      simp only [AudioPanel.finish]
      split
      · exact List.mem_cons_of_mem _ member
      · exact member
  | pollInventory now dropdownOpen constructed =>
      simp only [AudioPanel.finish]
      split
      · exact member
      split
      · exact List.mem_cons_of_mem _ (List.mem_cons_of_mem _ member)
      · exact List.mem_cons_of_mem _ member
  | start now constructed =>
      simp only [AudioPanel.finish]
      split
      · exact member
      · exact List.mem_cons_of_mem _ member
  | launchFailed now =>
      simp only [AudioPanel.finish]
      split <;> exact member
  | take now =>
      simp only [AudioPanel.finish]
      split
      · unfold AudioPanel.applyAudioInventory
        dsimp only
        split <;> exact member
      · exact member

theorem finish_watcher (panel : AudioPanel width) (route : SessionRoute width)
    (observed : Option (InventoryObserved width)) {op : PanelOp}
    (other : op ≠ .close ∧ ∀ now, op ≠ .takeChanged now) :
    (panel.finish route observed op).watcher = panel.watcher := by
  cases op with
  | enter | changed | request | leave => rfl
  | close => exact absurd rfl other.1
  | takeChanged now => exact absurd rfl (other.2 now)
  | refreshDue | launchFailed =>
      simp only [AudioPanel.finish]
      split <;> rfl
  | pollInventory =>
      simp only [AudioPanel.finish]
      split
      · rfl
      · split <;> rfl
  | start =>
      simp only [AudioPanel.finish]
      split <;> rfl
  | take =>
      simp only [AudioPanel.finish]
      split
      · unfold AudioPanel.applyAudioInventory
        dsimp only
        split <;> rfl
      · rfl

/-- The operations behind which no earlier question is wanted. -/
def PanelOp.replaces : PanelOp → Bool
  | .changed _ | .request _ | .leave | .close => true
  | _ => false

theorem replaced_of_gui {panel : AudioPanel width} {op : PanelOp} {rest : List PanelOp}
    (known : panel.todo = op :: rest) (replaces : op.replaces = true)
    (movedFrom : AudioInventory width) (route : SessionRoute width) :
    Replaced (stageOf panelStep panel (.gui movedFrom route)) := by
  obtain ⟨inner, asks, kind⟩ : ∃ inner, AudioPanel.asked movedFrom op = some inner ∧
      (inner = .request ∨ inner = .cancel ∨ inner = .close) := by
    cases op with
    | changed | leave => exact ⟨.cancel, rfl, .inr (.inl rfl)⟩
    | request => exact ⟨.request, rfl, .inl rfl⟩
    | close => exact ⟨.close, rfl, .inr (.inr rfl)⟩
    | _ => cases replaces
  refine ⟨stageOf inventoryStep panel.worker inner, ?_, kind⟩
  have asked : inventoryAsked panel (.gui movedFrom route) = some inner := by
    rw [inventoryAsked, known]
    exact asks
  exact congrArg (Option.map (stageOf inventoryStep panel.worker)) asked

/-- A step of the GUI thread is an operation, and what it does behind its step of the inventory. -/
theorem guiStep_finish {panel : AudioPanel width} {op : PanelOp} {rest : List PanelOp}
    (known : panel.todo = op :: rest) (movedFrom : AudioInventory width)
    (route : SessionRoute width) :
    ∃ worker observed, (panel.guiStep movedFrom route).2 =
      { panel with todo := rest, worker := worker }.finish route observed op := by
  cases asked : AudioPanel.asked movedFrom op with
  | none => exact ⟨panel.worker, none, congrArg Prod.snd (guiStep_rests known asked route)⟩
  | some inner => exact ⟨_, _, congrArg Prod.snd (guiStep_asks known asked route)⟩

namespace Noticing

variable {history : List (PanelStage width)} {panel : AudioPanel width}

theorem initial (now requested : UInt64) :
    Noticing [] (AudioPanel.launched now requested : AudioPanel width) :=
  ⟨(fun registered => by cases registered), fun outstanding => absurd outstanding not_outstanding_nil⟩

/-- A step that tells of no change keeps what waits. -/
theorem kept (noticing : Noticing history panel) {move : PanelMove width}
    (silent : ¬ Notifies (stageOf panelStep panel move))
    (watched : WatcherSound (panelStep panel move).2.watcher)
    (waits : ¬ Replaced (stageOf panelStep panel move) → panel.Unseen →
      (panelStep panel move).2.Unseen) :
    Noticing (history ++ [stageOf panelStep panel move]) (panelStep panel move).2 := by
  refine ⟨watched, fun outstanding => ?_⟩
  rcases outstanding_concat.mp outstanding with notifies | ⟨before, open_⟩
  · exact absurd notifies silent
  · exact waits open_ (noticing.noticed before)

theorem message (noticing : Noticing history panel) (message : PanelMessage width) :
    Noticing (history ++ [stageOf panelStep panel (.message message)])
      (panelStep panel (.message message)).2 := by
  have same := (SameDevices.message panel message).watcher
  have watched : WatcherSound (panelStep panel (.message message)).2.watcher := by
    rw [same]
    exact noticing.watched
  by_cases notifies : Notifies (stageOf panelStep panel (.message message))
  · refine ⟨watched, fun _ => ?_⟩
    rcases notifies with ⟨_, _, input, -⟩ | ⟨kind, now, input, audio, idle⟩
    · cases input
    · cases input
      have idle : panel.todo = [] := idle
      exact .inr ⟨now, by simp [panelStep, idle, AudioPanel.handle, audio]⟩
  · refine noticing.kept notifies watched fun _ unseen => ?_
    rcases unseen with dirty | ⟨now, waiting⟩
    · exact .inl (by rw [same]; exact dirty)
    · have busy : panel.todo.isEmpty = false := by
        rw [List.isEmpty_eq_false_iff]
        exact List.ne_nil_of_mem waiting
      exact .inr ⟨now, by simpa [panelStep, busy] using waiting⟩

theorem gui (noticing : Noticing history panel) (movedFrom : AudioInventory width)
    (route : SessionRoute width) :
    Noticing (history ++ [stageOf panelStep panel (.gui movedFrom route)])
      (panelStep panel (.gui movedFrom route)).2 := by
  have silent : ¬ Notifies (stageOf panelStep panel (.gui movedFrom route)) := by
    rintro (⟨_, _, input, -⟩ | ⟨_, _, input, -⟩) <;> cases input
  cases known : panel.todo with
  | nil =>
      have idle : (panelStep panel (.gui movedFrom route)).2 = panel :=
        congrArg Prod.snd (guiStep_idle known movedFrom route)
      refine noticing.kept silent ?_ fun _ unseen => ?_
      · rw [idle]
        exact noticing.watched
      · rw [idle]
        exact unseen
  | cons op rest =>
      obtain ⟨worker, observed, after⟩ := guiStep_finish known movedFrom route
      have after : (panelStep panel (.gui movedFrom route)).2 =
          { panel with todo := rest, worker := worker }.finish route observed op := after
      have later {now : UInt64} (other : op.replaces = false) (waiting : .changed now ∈ panel.todo) :
          .changed now ∈ (panelStep panel (.gui movedFrom route)).2.todo := by
        rw [after]
        refine mem_finish_todo ?_ route observed op
        rw [known] at waiting
        rcases List.mem_cons.mp waiting with rfl | waits
        · cases other
        · exact waits
      by_cases shut : op = .close
      · subst shut
        refine noticing.kept silent ?_ fun kept _ => absurd (replaced_of_gui known rfl _ _) kept
        rw [after]
        exact fun registered => by cases registered
      by_cases taking : ∃ now, op = .takeChanged now
      · obtain ⟨now, rfl⟩ := taking
        rcases AudioEndpointWatcher.takeChanged_cases noticing.watched with
          ⟨unchanged, registered, current, clean⟩ | ⟨changed, current⟩
        · have same : (panelStep panel (.gui movedFrom route)).2.watcher =
              panel.watcher.takeChanged.2 := by
            rw [after]
            rfl
          refine noticing.kept silent ?_ fun _ unseen => ?_
          · rw [same]
            intro known
            rw [current]
            exact noticing.watched (registered.symm.trans known)
          · rcases unseen with ⟨known, dirty⟩ | ⟨now, waiting⟩
            · exact absurd dirty (clean known)
            · exact .inr ⟨now, later rfl waiting⟩
        · refine noticing.kept silent ?_ fun _ _ => .inr ⟨now, ?_⟩
          · rw [after]
            exact fun _ => .inl current
          · rw [after]
            simp only [AudioPanel.finish, changed, if_true]
            exact List.mem_cons_self
      · have same : (panelStep panel (.gui movedFrom route)).2.watcher = panel.watcher := by
          rw [after]
          exact finish_watcher _ route observed ⟨shut, fun now other => taking ⟨now, other⟩⟩
        refine noticing.kept silent ?_ fun kept unseen => ?_
        · rw [same]
          exact noticing.watched
        · have other : op.replaces = false := by
            by_contra replaces
            exact kept (replaced_of_gui known (by simpa using replaces) _ _)
          rcases unseen with dirty | ⟨now, waiting⟩
          · exact .inl (same ▸ dirty)
          · exact .inr ⟨now, later other waiting⟩

theorem callback (noticing : Noticing history panel) (observer : ℕ)
    (notification : EndpointNotification) :
    Noticing (history ++ [stageOf panelStep panel (.callback observer notification)])
      (panelStep panel (.callback observer notification)).2 := by
  have registered := @AudioEndpointWatcher.callback_registered panel.watcher observer notification
  have stays {signal : AudioDeviceChangeSignal} (known : panel.watcher.current = some signal) :=
    AudioEndpointWatcher.current_callback known observer notification
  refine ⟨fun known => ?_, fun outstanding => ?_⟩
  · rcases noticing.watched (registered.symm.trans known) with clean | dirty
    · simp only [panelStep, stays clean]
      split
      · exact .inr rfl
      · exact .inl rfl
    · simp only [panelStep, stays dirty]
      split <;> exact .inr rfl
  · rcases outstanding_concat.mp outstanding with notifies | ⟨before, -⟩
    · rcases notifies with ⟨_, _, input, notifies, known, same⟩ | ⟨_, _, input, -⟩
      · cases input
        have same : panel.watcher.signal = some observer := same
        refine .inl ⟨registered.trans known, ?_⟩
        rcases noticing.watched known with clean | dirty
        · simpa [panelStep, notifies, same, AudioDeviceChangeSignal.notify] using stays clean
        · simpa [panelStep, notifies, same, AudioDeviceChangeSignal.notify] using stays dirty
      · cases input
    · rcases noticing.noticed before with ⟨known, dirty⟩ | waiting
      · refine .inl ⟨registered.trans known, ?_⟩
        simp only [panelStep, stays dirty]
        split <;> rfl
      · exact .inr waiting

theorem step (noticing : Noticing history panel) (move : PanelMove width) :
    Noticing (history ++ [stageOf panelStep panel move]) (panelStep panel move).2 := by
  have still {move : PanelMove width} (silent : ¬ Notifies (stageOf panelStep panel move))
      (watcher : (panelStep panel move).2.watcher = panel.watcher)
      (todo : (panelStep panel move).2.todo = panel.todo) :
      Noticing (history ++ [stageOf panelStep panel move]) (panelStep panel move).2 := by
    refine noticing.kept silent (watcher ▸ noticing.watched) fun _ unseen => ?_
    rwa [AudioPanel.Unseen, watcher, todo]
  cases move with
  | message message => exact noticing.message message
  | gui movedFrom route => exact noticing.gui movedFrom route
  | callback observer notification => exact noticing.callback observer notification
  | startWatcher failure =>
      have silent : ¬ Notifies (stageOf panelStep panel (.startWatcher failure)) := by
        rintro (⟨_, _, input, -⟩ | ⟨_, _, input, -⟩) <;> cases input
      rcases @AudioEndpointWatcher.start_registered panel.watcher failure with same | ⟨free, clean⟩
      · exact still silent same rfl
      · refine noticing.kept silent (fun known => .inl (clean known)) fun _ unseen => ?_
        rcases unseen with ⟨known, -⟩ | waiting
        · cases free.symm.trans known
        · exact .inr waiting
  | probed thread answer =>
      refine still ?_ rfl rfl
      rintro (⟨_, _, input, -⟩ | ⟨_, _, input, -⟩) <;> cases input
  | completed thread =>
      refine still ?_ rfl rfl
      rintro (⟨_, _, input, -⟩ | ⟨_, _, input, -⟩) <;> cases input

end Noticing

/-- The panel shows what the drivers have answered to a question that nothing has replaced. -/
def Shown (history : List (PanelStage width)) (panel : AudioPanel width) : Prop :=
  ∃ thread inventory, Course (history.filterMap inventoryPart.within) (.ready thread inventory) ∧
    inventory.error = .none ∧ panel.inputs = inventory.inputDevices ∧
      panel.outputs = inventory.outputDevices

structure Showing (history : List (PanelStage width)) (panel : AudioPanel width) : Prop where
  traced : Traced (history.filterMap inventoryPart.within) panel.worker
  shown : panel.current = true → panel.worker.state.status.closed = false → Shown history panel

theorem filterMap_concat_within (history : List (PanelStage width)) (panel : AudioPanel width)
    (move : PanelMove width) :
    (history ++ [stageOf panelStep panel move]).filterMap inventoryPart.within =
      history.filterMap inventoryPart.within ++
        ((inventoryAsked panel move).map (stageOf inventoryStep panel.worker)).toList := by
  rw [List.filterMap_append]
  rfl

theorem Traced.within {history : List (PanelStage width)} {panel : AudioPanel width}
    (traced : Traced (history.filterMap inventoryPart.within) panel.worker)
    (move : PanelMove width) :
    Traced ((history ++ [stageOf panelStep panel move]).filterMap inventoryPart.within)
      (panelStep panel move).2.worker := by
  rw [filterMap_concat_within]
  cases asked : inventoryAsked panel move with
  | none =>
      have same : (panelStep panel move).2.worker = panel.worker := inventoryPart.rests asked
      rw [same]
      simpa using traced
  | some inner =>
      have same : (panelStep panel move).2.worker = (inventoryStep panel.worker inner).2 :=
        inventoryPart.moves asked
      rw [same]
      exact traced.step inner

/-- A question that is answered stays so until a stage replaces it. -/
theorem Course.within {history : List (PanelStage width)} {panel : AudioPanel width}
    {move : PanelMove width} {phase : RequestPhase width}
    (course : Course (history.filterMap inventoryPart.within) phase)
    (calm : ¬ Replaced (stageOf panelStep panel move)) :
    Course ((history ++ [stageOf panelStep panel move]).filterMap inventoryPart.within) phase := by
  rw [filterMap_concat_within]
  cases asked : inventoryAsked panel move with
  | none => simpa using course
  | some inner =>
      refine .waits course fun replaces => calm ⟨_, ?_, replaces⟩
      exact congrArg (Option.map (stageOf inventoryStep panel.worker)) asked

theorem closed_within {panel : AudioPanel width} {move : PanelMove width}
    (open_ : (panelStep panel move).2.worker.state.status.closed = false) :
    panel.worker.state.status.closed = false := by
  cases asked : inventoryAsked panel move with
  | none =>
      have same : (panelStep panel move).2.worker = panel.worker := inventoryPart.rests asked
      rwa [same] at open_
  | some inner =>
      have same : (panelStep panel move).2.worker = (inventoryStep panel.worker inner).2 :=
        inventoryPart.moves asked
      rw [same] at open_
      by_contra closed
      cases open_.symm.trans (closed_kept (by simpa using closed) inner)

theorem not_replaced {panel : AudioPanel width} {move : PanelMove width}
    (calm : ∀ inner, inventoryAsked panel move = some inner →
      inner ≠ .request ∧ inner ≠ .cancel ∧ inner ≠ .close) :
    ¬ Replaced (stageOf panelStep panel move) := by
  rintro ⟨inner, within, replaces⟩
  obtain ⟨asks, asked, rfl⟩ := Option.map_eq_some_iff.mp within
  obtain ⟨request, cancel, close⟩ := calm asks asked
  rcases replaces with same | same | same
  · exact request same
  · exact cancel same
  · exact close same

/-- Most operations show what was shown before. -/
structure ShowsAs (before after : AudioPanel width) : Prop where
  current : after.current = before.current
  inputs : after.inputs = before.inputs
  outputs : after.outputs = before.outputs

theorem finish_shows (panel : AudioPanel width) (route : SessionRoute width)
    (observed : Option (InventoryObserved width)) {op : PanelOp} (calm : op.replaces = false)
    (other : ∀ now, op ≠ .take now) : ShowsAs panel (panel.finish route observed op) := by
  cases op with
  | enter | takeChanged => exact ⟨rfl, rfl, rfl⟩
  | changed | request | leave | close => cases calm
  | take now => exact absurd rfl (other now)
  | refreshDue | launchFailed =>
      simp only [AudioPanel.finish]
      split <;> exact ⟨rfl, rfl, rfl⟩
  | pollInventory =>
      simp only [AudioPanel.finish]
      split
      · exact ⟨rfl, rfl, rfl⟩
      · split <;> exact ⟨rfl, rfl, rfl⟩
  | start =>
      simp only [AudioPanel.finish]
      split <;> exact ⟨rfl, rfl, rfl⟩

theorem finish_policy (panel : AudioPanel width) (route : SessionRoute width)
    (observed : Option (InventoryObserved width)) {op : PanelOp} (calm : op.replaces = false)
    (other : ∀ now, op ≠ .take now ∧ op ≠ .enter now) :
    (panel.finish route observed op).policy = panel.policy := by
  cases op with
  | takeChanged => rfl
  | changed | request | leave | close => cases calm
  | take now => exact absurd rfl (other now).1
  | enter now => exact absurd rfl (other now).2
  | refreshDue | launchFailed | start =>
      simp only [AudioPanel.finish]
      split <;> rfl
  | pollInventory =>
      simp only [AudioPanel.finish]
      split
      · rfl
      · split <;> rfl

theorem asked_calm {movedFrom : AudioInventory width} {op : PanelOp} (calm : op.replaces = false)
    {inner : InventoryMove width} (asked : AudioPanel.asked movedFrom op = some inner) :
    inner ≠ .request ∧ inner ≠ .cancel ∧ inner ≠ .close := by
  cases op with
  | changed | request | leave | close => cases calm
  | start | take =>
      cases asked
      exact ⟨nofun, nofun, nofun⟩
  | enter | takeChanged | refreshDue | pollInventory | launchFailed => cases asked

namespace Showing

variable {history : List (PanelStage width)} {panel : AudioPanel width}

theorem initial (now requested : UInt64) :
    Showing [] (AudioPanel.launched now requested : AudioPanel width) :=
  ⟨traced_initial, fun shows => by cases shows⟩

/-- A step behind which the panel shows what it did. -/
theorem kept (showing : Showing history panel) {move : PanelMove width}
    (calm : ¬ Replaced (stageOf panelStep panel move))
    (current : (panelStep panel move).2.current = panel.current)
    (inputs : (panelStep panel move).2.inputs = panel.inputs)
    (outputs : (panelStep panel move).2.outputs = panel.outputs) :
    Showing (history ++ [stageOf panelStep panel move]) (panelStep panel move).2 := by
  refine ⟨showing.traced.within move, fun shows open_ => ?_⟩
  obtain ⟨thread, inventory, course, fine, listed⟩ :=
    showing.shown (current.symm.trans shows) (closed_within open_)
  refine ⟨thread, inventory, course.within calm, fine, ?_⟩
  rw [inputs, outputs]
  exact listed

/-- A step behind which the panel shows nothing as current. -/
theorem dropped (showing : Showing history panel) {move : PanelMove width}
    (hidden : (panelStep panel move).2.current = true →
      (panelStep panel move).2.worker.state.status.closed = true) :
    Showing (history ++ [stageOf panelStep panel move]) (panelStep panel move).2 := by
  refine ⟨showing.traced.within move, fun shows open_ => ?_⟩
  cases open_.symm.trans (hidden shows)

/-- The panel takes over what the drivers have answered to the question of its history. -/
theorem take (showing : Showing history panel) {now : UInt64} {rest : List PanelOp}
    (known : panel.todo = .take now :: rest) {movedFrom : AudioInventory width}
    {route : SessionRoute width}
    (calm : ¬ Replaced (stageOf panelStep panel (.gui movedFrom route))) :
    Showing (history ++ [stageOf panelStep panel (.gui movedFrom route)])
      (panelStep panel (.gui movedFrom route)).2 := by
  have asks : AudioPanel.asked movedFrom (.take now) = some (.take movedFrom) := rfl
  have after := congrArg Prod.snd (guiStep_asks known asks route)
  have after : (panelStep panel (.gui movedFrom route)).2 = _ := after
  cases output : (inventoryStep panel.worker (.take movedFrom)).1 with
  | took took =>
      rw [output] at after
      cases took with
      | none => exact showing.kept calm (by rw [after]; rfl) (by rw [after]; rfl) (by rw [after]; rfl)
      | some inventory =>
          have returned : Returns (stageOf inventoryStep panel.worker (.take movedFrom)) inventory :=
            output
          obtain ⟨-, ready, result, -⟩ := take_returned returned
          obtain ⟨thread, course⟩ := showing.traced.ready ready
          refine ⟨showing.traced.within _, fun shows _ => ⟨thread, inventory, ?_, ?_⟩⟩
          · rw [← result]
            exact course.within calm
          · rw [after] at shows ⊢
            simp only [AudioPanel.finish, AudioPanel.applyAudioInventory] at shows ⊢
            split at shows
            · cases shows
            · next fine =>
                rw [if_neg fine]
                exact ⟨by simpa using fine, rfl, rfl⟩
  | nothing | requested | started | completed =>
      rw [output] at after
      exact showing.kept calm (by rw [after]; rfl) (by rw [after]; rfl) (by rw [after]; rfl)

theorem gui (showing : Showing history panel) (movedFrom : AudioInventory width)
    (route : SessionRoute width) :
    Showing (history ++ [stageOf panelStep panel (.gui movedFrom route)])
      (panelStep panel (.gui movedFrom route)).2 := by
  cases known : panel.todo with
  | nil =>
      have idle : (panelStep panel (.gui movedFrom route)).2 = panel :=
        congrArg Prod.snd (guiStep_idle known movedFrom route)
      have calm : ¬ Replaced (stageOf panelStep panel (.gui movedFrom route)) := by
        rintro ⟨inner, within, -⟩
        have none_ : inventoryAsked panel (.gui movedFrom route) = none := by
          rw [inventoryAsked, known]
          rfl
        cases (congrArg (Option.map (stageOf inventoryStep panel.worker)) none_).symm.trans within
      exact showing.kept calm (by rw [idle]) (by rw [idle]) (by rw [idle])
  | cons op rest =>
      obtain ⟨worker, observed, after⟩ := guiStep_finish known movedFrom route
      have after : (panelStep panel (.gui movedFrom route)).2 =
          { panel with todo := rest, worker := worker }.finish route observed op := after
      cases replaces : op.replaces with
      | true =>
          refine showing.dropped fun shows => ?_
          rw [after] at shows
          cases op with
          | changed | request | leave => cases shows
          | close =>
              have asks : AudioPanel.asked movedFrom PanelOp.close = some (.close) := rfl
              have closed := congrArg Prod.snd (guiStep_asks known asks route)
              have closed : (panelStep panel (.gui movedFrom route)).2.worker =
                  (inventoryStep panel.worker .close).2 := congrArg AudioPanel.worker closed
              rw [closed]
              rfl
          | _ => cases replaces
      | false =>
          have calm : ¬ Replaced (stageOf panelStep panel (.gui movedFrom route)) := by
            refine not_replaced fun inner asked => @asked_calm _ movedFrom _ replaces _ ?_
            rw [inventoryAsked, known] at asked
            exact asked
          by_cases taking : ∃ now, op = .take now
          · obtain ⟨now, rfl⟩ := taking
            exact showing.take known calm
          · obtain ⟨current, inputs, outputs⟩ := finish_shows
              { panel with todo := rest, worker := worker } route observed replaces
              fun now same => taking ⟨now, same⟩
            refine showing.kept calm ?_ ?_ ?_
            · rw [after]
              exact current
            · rw [after]
              exact inputs
            · rw [after]
              exact outputs

theorem step (showing : Showing history panel) (move : PanelMove width) :
    Showing (history ++ [stageOf panelStep panel move]) (panelStep panel move).2 := by
  cases move with
  | message message =>
      have same := SameDevices.message panel message
      have calm := @not_replaced _ panel (.message message) fun _ asked => by cases asked
      exact showing.kept calm same.current same.inputs same.outputs
  | gui movedFrom route => exact showing.gui movedFrom route
  | callback | startWatcher =>
      exact showing.kept (not_replaced fun _ asked => by cases asked) rfl rfl rfl
  | probed thread answer =>
      refine showing.kept (not_replaced fun _ asked => ?_) rfl rfl rfl
      cases asked
      exact ⟨nofun, nofun, nofun⟩
  | completed thread =>
      refine showing.kept (not_replaced fun _ asked => ?_) rfl rfl rfl
      cases asked
      exact ⟨nofun, nofun, nofun⟩

end Showing

/-! ## From the question to the answer -/

/-- A thread was launched in these stages, and the drivers have answered it. -/
def Answered (thread : ℕ) (inventory : AudioInventory width) (later : List (InventoryStage width)) :
    Prop :=
  ∃ waits launch probes probed rest, later = waits ++ launch :: (probes ++ probed :: rest) ∧
    launch.output = .started (some thread) ∧
      ∃ answer, probed.input = .probed thread answer ∧ inventory = probeResult answer

/-- What a request of this phase has met with. -/
def Reached (later : List (InventoryStage width)) : RequestPhase width → Prop
  | .pending => True
  | .probing thread => ∃ waits launch probes, later = waits ++ launch :: probes ∧
      launch.output = .started (some thread)
  | .probed thread inventory | .ready thread inventory => Answered thread inventory later

theorem Reached.concat {later : List (InventoryStage width)} {phase : RequestPhase width}
    (reached : Reached later phase) (stage : InventoryStage width) :
    Reached (later ++ [stage]) phase := by
  have answered {thread : ℕ} {inventory : AudioInventory width}
      (known : Answered thread inventory later) : Answered thread inventory (later ++ [stage]) := by
    obtain ⟨waits, launch, probes, probed, rest, rfl, behind⟩ := known
    exact ⟨waits, launch, probes, probed, rest ++ [stage], by simp, behind⟩
  cases phase with
  | pending => trivial
  | probing thread =>
      obtain ⟨waits, launch, probes, rfl, started⟩ := reached
      exact ⟨waits, launch, probes ++ [stage], by simp, started⟩
  | probed thread inventory => exact answered reached
  | ready thread inventory => exact answered reached

/-- The stage shows what the inventory shows. -/
def Honest (stage : InventoryStage width) : Prop :=
  stage.output = (inventoryStep stage.before stage.input).1

theorem completed_of_output {host : InventoryHost width} {move : InventoryMove width} {thread : ℕ}
    {published : Bool} (output : (inventoryStep host move).1 = .completed thread published) :
    ∃ ended, move = .completed ended := by
  cases move with
  | completed ended => exact ⟨ended, rfl⟩
  | startPending constructed =>
      simp only [inventoryStep] at output
      split at output <;> cases output
  | request | take | cancel | close | probed => cases output

/-- A request that has come so far was made in the history, and nothing has replaced it. -/
theorem Course.asked {history : List (InventoryStage width)} {phase : RequestPhase width}
    (course : Course history phase) (honest : ∀ stage ∈ history, Honest stage) :
    ∃ older request later, history = older ++ request :: later ∧ request.output = .requested true ∧
      (∀ stage ∈ later, ¬ Replaces stage) ∧ Reached later phase := by
  induction course with
  | requested older accepted =>
      exact ⟨older, _, [], rfl, accepted, fun _ member => absurd member List.not_mem_nil, trivial⟩
  | @launched history stage thread _ started ih =>
      obtain ⟨older, request, later, rfl, asks, calm, -⟩ := ih (List.forall_mem_append.mp honest).1
      have last : Honest stage := List.forall_mem_singleton.mp (List.forall_mem_append.mp honest).2
      have shows : Launches (stageOf inventoryStep stage.before stage.input) :=
        ⟨thread, last.symm.trans started⟩
      obtain ⟨-, constructed, input⟩ := started_cases shows
      have kept : ¬ Replaces stage := by
        rintro (same | same | same) <;> cases input.symm.trans same
      exact ⟨older, request, later ++ [stage], by simp, asks, forall_mem_concat calm kept,
        later, stage, [], rfl, started⟩
  | @probed history stage thread answer _ answers ih =>
      obtain ⟨older, request, later, rfl, asks, calm, waits, launch, probes, rfl, started⟩ :=
        ih (List.forall_mem_append.mp honest).1
      have kept : ¬ Replaces stage := by
        rintro (same | same | same) <;> cases answers.symm.trans same
      exact ⟨older, request, _, by simp, asks, forall_mem_concat calm kept, waits, launch, probes,
        stage, [], by simp, started, answer, answers, rfl⟩
  | @published history stage thread inventory _ completes ih =>
      obtain ⟨older, request, later, rfl, asks, calm, reached⟩ := ih (List.forall_mem_append.mp honest).1
      have last : Honest stage := List.forall_mem_singleton.mp (List.forall_mem_append.mp honest).2
      obtain ⟨ended, input⟩ := completed_of_output (last.symm.trans completes)
      have kept : ¬ Replaces stage := by
        rintro (same | same | same) <;> cases input.symm.trans same
      have answered : Reached later (.ready thread inventory) := reached
      exact ⟨older, request, later ++ [stage], by simp, asks, forall_mem_concat calm kept,
        answered.concat stage⟩
  | @waits history stage phase _ kept ih =>
      obtain ⟨older, request, later, rfl, asks, calm, reached⟩ :=
        ih (List.forall_mem_append.mp honest).1
      exact ⟨older, request, later ++ [stage], by simp, asks, forall_mem_concat calm kept,
        reached.concat stage⟩

/-- A question is under way, or its answer is there. -/
def InventoryHost.Underway (host : InventoryHost width) : Prop :=
  host.state.status.pending = true ∨ host.state.status.ready = true ∨
    ∃ thread ∈ host.threads, thread.generation = host.state.status.generation

namespace InventoryHost.Underway

variable {host : InventoryHost width}

theorem startPending (underway : host.Underway) (constructed : Bool) :
    (inventoryStep host (.startPending constructed)).2.Underway := by
  by_cases refused : (host.state.status.closed || host.state.status.busy ||
      !host.state.status.pending) = true
  · have same : (inventoryStep host (.startPending constructed)).2 = host := by
      simp only [inventoryStep, AudioInventoryAsync.startPending, if_pos refused]
    rw [same]
    exact underway
  · cases constructed with
    | false =>
        simp only [inventoryStep, AudioInventoryAsync.startPending, if_neg refused]
        exact underway
    | true =>
        simp only [inventoryStep, AudioInventoryAsync.startPending, if_neg refused]
        exact .inr (.inr ⟨_, List.mem_append_right _ List.mem_cons_self, rfl⟩)

theorem probed (underway : host.Underway) (id : ℕ) (answer : Option (AudioInventory width)) :
    (inventoryStep host (.probed id answer)).2.Underway := by
  rcases underway with pending | ready | ⟨thread, member, same⟩
  · exact .inl pending
  · exact .inr (.inl ready)
  · refine .inr (.inr ⟨thread.probed id answer, List.mem_map_of_mem member, ?_⟩)
    rw [ProbeThread.probed_generation]
    exact same

theorem completed (underway : host.Underway) (sound : host.Sound)
    (open_ : host.state.status.closed = false) (id : ℕ) :
    (inventoryStep host (.completed id)).2.Underway := by
  cases found : host.threads.find? fun thread => thread.id = id && thread.result.isSome with
  | none =>
      simp only [inventoryStep, found]
      exact underway
  | some thread =>
      obtain ⟨only, -⟩ := sound.thread (List.mem_of_find?_eq_some found)
      have ended := List.find?_some found
      obtain ⟨other, generation, result⟩ := thread
      cases result with
      | none => simp at ended
      | some result =>
          simp only [inventoryStep, found, AudioInventoryAsync.completed]
          split
          · exact .inr (.inl rfl)
          · next stale =>
              rcases underway with pending | ready | ⟨thread, member, same⟩
              · exact .inl pending
              · exact .inr (.inl ready)
              · rw [only] at member
                rw [List.mem_singleton.mp member] at same
                have current : host.state.status.generation = generation := same.symm
                exact absurd (by simp [open_, current]) stale

theorem take (underway : host.Underway) (movedFrom : AudioInventory width) :
    (inventoryStep host (.take movedFrom)).2.Underway ∨
      ∃ inventory, (inventoryStep host (.take movedFrom)).1 = .took (some inventory) := by
  simp only [inventoryStep, AudioInventoryAsync.take]
  split
  · exact .inl underway
  · exact .inr ⟨_, rfl⟩

theorem request (host : InventoryHost width) :
    (inventoryStep host .request).2.state.status.closed = true ∨
      (inventoryStep host .request).2.Underway := by
  simp only [inventoryStep, AudioInventoryAsync.request]
  split
  · next closed => exact .inl closed
  · split
    · next refused =>
        refine .inl ?_
        unfold AudioInventoryAsync.invalidate at refused ⊢
        dsimp only at refused ⊢
        split
        · rfl
        · next room =>
            rw [if_neg room] at refused
            cases refused
    · exact .inr (.inl rfl)

end InventoryHost.Underway

/-- The policy is entered with a request to come. -/
def Entered (todo : List PanelOp) : Prop :=
  ∀ now rest, .enter now :: rest <:+ todo → ∃ requested, .request requested ∈ rest

namespace Entered

variable {todo : List PanelOp} {op : PanelOp}

theorem nil : Entered [] := fun _ _ suffix_ => by cases List.suffix_nil.mp suffix_

theorem tail (entered : Entered (op :: todo)) : Entered todo :=
  fun now rest suffix_ => entered now rest (suffix_.trans (List.suffix_cons op todo))

theorem cons (entered : Entered todo) (other : ∀ now, op ≠ .enter now) : Entered (op :: todo) := by
  intro now rest suffix_
  rcases List.suffix_cons_iff.mp suffix_ with same | behind
  · exact absurd (List.cons_eq_cons.mp same).1.symm (other now)
  · exact entered now rest behind

theorem enter {now requested : UInt64} (entered : Entered (.request requested :: todo)) :
    Entered (.enter now :: .request requested :: todo) := by
  intro other rest suffix_
  rcases List.suffix_cons_iff.mp suffix_ with same | behind
  · rw [(List.cons_eq_cons.mp same).2]
    exact ⟨requested, List.mem_cons_self⟩
  · exact entered other rest behind

theorem pageOps (panel : AudioPanel width) (page : ℕ) (now requested : UInt64) :
    Entered (panel.pageOps page now requested) := by
  have asks : Entered [.request requested] := nil.cons fun _ same => by cases same
  unfold AudioPanel.pageOps
  by_cases shown : page = 2
  · subst shown
    by_cases same : panel.page = 2
    · simpa [same] using asks
    · simpa [same] using asks.enter
  · by_cases left : panel.page = 2
    · have leaves : Entered [.leave] := nil.cons fun _ same => by cases same
      simpa [shown, left, Ne.symm shown] using leaves
    · simpa [shown, left] using nil

theorem prefer {panel : AudioPanel width} (entered : Entered panel.todo)
    (rows : AudioRole → Option ℕ) (role : AudioRole) : Entered (panel.prefer rows role).todo := by
  unfold AudioPanel.prefer
  split <;> exact entered

theorem handle (panel : AudioPanel width) (idle : panel.todo = []) (message : PanelMessage width) :
    Entered (panel.handle message).todo := by
  have same : Entered panel.todo := by
    rw [idle]
    exact nil
  cases message with
  | timer notified due requested polled open_ constructed =>
      have polls : Entered [.pollInventory polled open_ constructed] :=
        nil.cons fun _ same => by cases same
      have looks : Entered [.refreshDue notified due requested,
          .pollInventory polled open_ constructed] := polls.cons fun _ same => by cases same
      exact looks.cons fun _ same => by cases same
  | deviceChange kind now =>
      simp only [AudioPanel.handle]
      split
      · exact nil.cons fun _ same => by cases same
      · exact same
  | showPage page now requested => exact pageOps panel page now requested
  | refreshButton now => exact nil.cons fun _ same => by cases same
  | choose role row route =>
      simp only [AudioPanel.handle, AudioPanel.choose]
      split
      · exact same
      · split <;> exact same
  | openPreferences => exact same
  | closePreferences rows route =>
      simp only [AudioPanel.handle]
      split
      · simp only [AudioPanel.acceptPreferences]
        split
        · exact ((same.prefer _ _).prefer _ _).prefer _ _
        · exact same.prefer _ _
      · exact same
  | destroy => exact nil.cons fun _ same => by cases same

theorem finish {panel : AudioPanel width} (entered : Entered panel.todo)
    (route : SessionRoute width) (observed : Option (InventoryObserved width)) (op : PanelOp) :
    Entered (panel.finish route observed op).todo := by
  cases op with
  | enter | changed | request | leave | close => exact entered
  | takeChanged now =>
      simp only [AudioPanel.finish]
      split
      · exact entered.cons fun _ same => by cases same
      · exact entered
  | refreshDue now dropdownOpen requested =>
      simp only [AudioPanel.finish]
      split
      · exact entered.cons fun _ same => by cases same
      · exact entered
  | pollInventory now dropdownOpen constructed =>
      simp only [AudioPanel.finish]
      split
      · exact entered
      split
      · have takes : Entered (.take now :: panel.todo) := entered.cons fun _ same => by cases same
        exact takes.cons fun _ same => by cases same
      · exact entered.cons fun _ same => by cases same
  | start now constructed =>
      simp only [AudioPanel.finish]
      split
      · exact entered
      · exact entered.cons fun _ same => by cases same
  | launchFailed now =>
      simp only [AudioPanel.finish]
      split <;> exact entered
  | take now =>
      simp only [AudioPanel.finish]
      split
      · unfold AudioPanel.applyAudioInventory
        dsimp only
        split <;> exact entered
      · exact entered

end Entered

/-- What brings an inventory sooner or later. -/
def AudioPanel.Awaits (panel : AudioPanel width) : Prop :=
  panel.worker.Underway ∨ panel.policy.dirty = true ∨ ∃ now, .request now ∈ panel.todo

/-- The panel takes over that the drivers could not be asked. -/
def Fails (stage : PanelStage width) : Prop :=
  ∃ inventory, stage.output = .worker (.took (some inventory)) ∧ inventory.error ≠ .none

structure Awaiting (history : List (PanelStage width)) (panel : AudioPanel width) : Prop where
  sound : panel.worker.Sound
  entered : Entered panel.todo
  awaits : panel.policy.active = true → panel.worker.state.status.closed = false →
    panel.current = true ∨ panel.Awaits ∨ Outstanding Fails Replaced history

namespace Awaiting

variable {history : List (PanelStage width)} {panel : AudioPanel width}

theorem initial (now requested : UInt64) :
    Awaiting [] (AudioPanel.launched now requested : AudioPanel width) :=
  ⟨traced_initial.sound, Entered.enter (Entered.nil.cons fun _ same => by cases same),
    fun on => by cases on⟩

theorem kept (awaiting : Awaiting history panel) {move : PanelMove width}
    (calm : ¬ Replaced (stageOf panelStep panel move))
    (sound : (panelStep panel move).2.worker.Sound)
    (entered : Entered (panelStep panel move).2.todo)
    (active : (panelStep panel move).2.policy.active = true → panel.policy.active = true)
    (current : panel.current = true → (panelStep panel move).2.current = true)
    (awaits : (panelStep panel move).2.worker.state.status.closed = false → panel.Awaits →
      (panelStep panel move).2.current = true ∨ (panelStep panel move).2.Awaits ∨
        Fails (stageOf panelStep panel move)) :
    Awaiting (history ++ [stageOf panelStep panel move]) (panelStep panel move).2 := by
  refine ⟨sound, entered, fun on open_ => ?_⟩
  rcases awaiting.awaits (active on) (closed_within open_) with shows | waits | failed
  · exact .inl (current shows)
  · rcases awaits open_ waits with shows | waits | fails
    · exact .inl shows
    · exact .inr (.inl waits)
    · exact .inr (.inr (outstanding_concat.mpr (.inl fails)))
  · exact .inr (.inr (outstanding_concat.mpr (.inr ⟨failed, calm⟩)))

theorem message (awaiting : Awaiting history panel) (message : PanelMessage width) :
    Awaiting (history ++ [stageOf panelStep panel (.message message)])
      (panelStep panel (.message message)).2 := by
  have same := SameDevices.message panel message
  have calm := @not_replaced _ panel (.message message) fun _ asked => by cases asked
  refine awaiting.kept calm (same.worker ▸ awaiting.sound) ?_ (fun on => same.policy ▸ on)
    (fun shows => same.current.trans shows) fun _ waits => .inr (.inl ?_)
  · simp only [panelStep]
    split
    · next idle => exact .handle panel (List.isEmpty_iff.mp idle) message
    · exact awaiting.entered
  · rcases waits with underway | dirty | ⟨now, waiting⟩
    · exact .inl (same.worker ▸ underway)
    · exact .inr (.inl (same.policy ▸ dirty))
    · have busy : panel.todo.isEmpty = false := by
        rw [List.isEmpty_eq_false_iff]
        exact List.ne_nil_of_mem waiting
      exact .inr (.inr ⟨now, by simpa [panelStep, busy] using waiting⟩)

/-- The threads go on. -/
theorem thread (awaiting : Awaiting history panel) {move : PanelMove width}
    {inner : InventoryMove width} (asked : inventoryAsked panel move = some inner)
    (calm : inner ≠ .request ∧ inner ≠ .cancel ∧ inner ≠ .close)
    (same : (panelStep panel move).2 = { panel with worker := (inventoryStep panel.worker inner).2 })
    (sound : (inventoryStep panel.worker inner).2.Sound)
    (underway : panel.worker.state.status.closed = false → panel.worker.Underway →
      (inventoryStep panel.worker inner).2.Underway) :
    Awaiting (history ++ [stageOf panelStep panel move]) (panelStep panel move).2 := by
  have calm : ¬ Replaced (stageOf panelStep panel move) := by
    refine not_replaced fun other known => ?_
    cases asked.symm.trans known
    exact calm
  refine awaiting.kept calm ?_ ?_ ?_ ?_ fun open_ waits => .inr (.inl ?_)
  · rw [same]
    exact sound
  · rw [same]
    exact awaiting.entered
  · rw [same]
    exact id
  · rw [same]
    exact id
  · have open_ := closed_within open_
    rw [same]
    exact waits.imp (underway open_) id

/-- An operation that rests, or that asks whether the thread can be launched. -/
theorem calm_gui (awaiting : Awaiting history panel) {op : PanelOp} {rest : List PanelOp}
    (known : panel.todo = op :: rest) (movedFrom : AudioInventory width)
    (route : SessionRoute width) (calm : op.replaces = false)
    (other : ∀ now, op ≠ .take now ∧ op ≠ .enter now)
    (sound : (panelStep panel (.gui movedFrom route)).2.worker.Sound)
    (underway : panel.worker.Underway →
      (panelStep panel (.gui movedFrom route)).2.worker.Underway) :
    Awaiting (history ++ [stageOf panelStep panel (.gui movedFrom route)])
      (panelStep panel (.gui movedFrom route)).2 := by
  obtain ⟨worker, observed, after⟩ := guiStep_finish known movedFrom route
  have after : (panelStep panel (.gui movedFrom route)).2 =
      { panel with todo := rest, worker := worker }.finish route observed op := after
  have unreplaced : ¬ Replaced (stageOf panelStep panel (.gui movedFrom route)) := by
    refine not_replaced fun inner asked => @asked_calm _ movedFrom _ calm _ ?_
    rw [inventoryAsked, known] at asked
    exact asked
  have shows := finish_shows { panel with todo := rest, worker := worker } route observed calm
    fun now => (other now).1
  have policy := finish_policy { panel with todo := rest, worker := worker } route observed calm other
  have entered := awaiting.entered
  rw [known] at entered
  refine awaiting.kept unreplaced sound ?_ ?_ ?_ fun _ waits => .inr (.inl ?_)
  · rw [after]
    exact entered.tail.finish route observed op
  · rw [after, policy]
    exact id
  · rw [after, shows.current]
    exact id
  · rcases waits with before | dirty | ⟨now, waiting⟩
    · exact .inl (underway before)
    · refine .inr (.inl ?_)
      rw [after, policy]
      exact dirty
    · refine .inr (.inr ⟨now, ?_⟩)
      rw [known] at waiting
      rw [after]
      refine mem_finish_todo ?_ route observed op
      rcases List.mem_cons.mp waiting with rfl | waits
      · cases calm
      · exact waits

theorem take (awaiting : Awaiting history panel) {now : UInt64} {rest : List PanelOp}
    (known : panel.todo = .take now :: rest) (movedFrom : AudioInventory width)
    (route : SessionRoute width)
    (sound : (panelStep panel (.gui movedFrom route)).2.worker.Sound) :
    Awaiting (history ++ [stageOf panelStep panel (.gui movedFrom route)])
      (panelStep panel (.gui movedFrom route)).2 := by
  have asks : AudioPanel.asked movedFrom (.take now) = some (.take movedFrom) := rfl
  have shown := guiStep_asks known asks route
  have after : (panelStep panel (.gui movedFrom route)).2 = _ := congrArg Prod.snd shown
  have entered := awaiting.entered
  rw [known] at entered
  have later : Entered (panelStep panel (.gui movedFrom route)).2.todo := by
    rw [after]
    exact entered.tail.finish route _ _
  by_cases took : ∃ inventory, (inventoryStep panel.worker (.take movedFrom)).1 = .took (some inventory)
  · obtain ⟨inventory, output⟩ := took
    refine ⟨sound, later, fun _ _ => ?_⟩
    by_cases fine : inventory.error = .none
    · refine .inl ?_
      rw [after, output]
      simp only [AudioPanel.finish, AudioPanel.applyAudioInventory]
      rw [if_neg (not_not_intro fine)]
    · refine .inr (.inr (outstanding_concat.mpr (.inl ⟨inventory, ?_, fine⟩)))
      rw [← output]
      exact congrArg Prod.fst shown
  · have same : (panelStep panel (.gui movedFrom route)).2 =
        { panel with todo := rest, worker := (inventoryStep panel.worker (.take movedFrom)).2 } := by
      rw [after]
      simp only [AudioPanel.finish]
      split
      · next inventory output => exact absurd ⟨inventory, Option.some.inj output⟩ took
      · rfl
    have calm : ¬ Replaced (stageOf panelStep panel (.gui movedFrom route)) := by
      refine not_replaced fun inner asked => @asked_calm _ movedFrom (.take now) rfl _ ?_
      rw [inventoryAsked, known] at asked
      exact asked
    refine awaiting.kept calm sound later ?_ ?_ fun _ waits => .inr (.inl ?_)
    · rw [same]
      exact id
    · rw [same]
      exact id
    · rw [same]
      rcases waits with before | dirty | ⟨now, waiting⟩
      · exact .inl ((before.take movedFrom).resolve_right took)
      · exact .inr (.inl dirty)
      · rw [known] at waiting
        rcases List.mem_cons.mp waiting with other | waits
        · cases other
        · exact .inr (.inr ⟨now, waits⟩)

theorem changed_active {policy : AudioDeviceChangePolicy} {now : UInt64}
    (on : (policy.changed now).active = true) : (policy.changed now).dirty = true := by
  unfold AudioDeviceChangePolicy.changed AudioDeviceChangePolicy.observe at on ⊢
  split
  · dsimp only
    split <;> rfl
  · next off =>
      rw [if_neg off] at on
      exact absurd on off

/-- An interface with nothing to do leaves the panel alone. -/
theorem gui_idle (awaiting : Awaiting history panel) (movedFrom : AudioInventory width)
    (route : SessionRoute width) (known : panel.todo = [])
    (sound : (panelStep panel (.gui movedFrom route)).2.worker.Sound) :
    Awaiting (history ++ [stageOf panelStep panel (.gui movedFrom route)])
      (panelStep panel (.gui movedFrom route)).2 := by
  have idle : (panelStep panel (.gui movedFrom route)).2 = panel :=
    congrArg Prod.snd (guiStep_idle known movedFrom route)
  have calm : ¬ Replaced (stageOf panelStep panel (.gui movedFrom route)) := by
    refine not_replaced fun inner asked => ?_
    rw [inventoryAsked, known] at asked
    cases asked
  refine awaiting.kept calm sound ?_ ?_ ?_ fun _ waits => .inr (.inl ?_)
  · rw [idle]
    exact awaiting.entered
  · rw [idle]
    exact id
  · rw [idle]
    exact id
  · rw [idle]
    exact waits

/-- A page that is entered, a change and a question bring an inventory. -/
theorem gui_brings (awaiting : Awaiting history panel) (movedFrom : AudioInventory width)
    (route : SessionRoute width) {op : PanelOp} {rest : List PanelOp}
    (known : panel.todo = op :: rest)
    (brings : ∃ now, op = .enter now ∨ op = .changed now ∨ op = .request now)
    (sound : (panelStep panel (.gui movedFrom route)).2.worker.Sound) :
    Awaiting (history ++ [stageOf panelStep panel (.gui movedFrom route)])
      (panelStep panel (.gui movedFrom route)).2 := by
  have entered := awaiting.entered
  rw [known] at entered
  obtain ⟨now, rfl | rfl | rfl⟩ := brings
  · have after : (panelStep panel (.gui movedFrom route)).2 = _ :=
      congrArg Prod.snd (guiStep_rests known rfl route)
    refine ⟨sound, ?_, fun _ _ => .inr (.inl (.inr (.inr ?_)))⟩
    · rw [after]
      exact entered.tail
    · rw [after]
      exact entered now rest (List.suffix_refl _)
  · have asks : AudioPanel.asked movedFrom (.changed now) = some .cancel := rfl
    have after : (panelStep panel (.gui movedFrom route)).2 = _ :=
      congrArg Prod.snd (guiStep_asks known asks route)
    refine ⟨sound, ?_, fun on _ => .inr (.inl (.inr (.inl ?_)))⟩
    · rw [after]
      exact entered.tail
    · rw [after] at on ⊢
      exact changed_active on
  · have asks : AudioPanel.asked movedFrom (.request now) = some .request := rfl
    have after : (panelStep panel (.gui movedFrom route)).2 = _ :=
      congrArg Prod.snd (guiStep_asks known asks route)
    refine ⟨sound, ?_, fun _ open_ => .inr (.inl (.inl ?_))⟩
    · rw [after]
      exact entered.tail
    · rw [after] at open_ ⊢
      refine (InventoryHost.Underway.request panel.worker).resolve_left fun closed => ?_
      cases open_.symm.trans closed

/-- A page that is left, and a window that closes, wait for nothing. -/
theorem gui_ends (awaiting : Awaiting history panel) (movedFrom : AudioInventory width)
    (route : SessionRoute width) {op : PanelOp} {rest : List PanelOp}
    (known : panel.todo = op :: rest) (ends : op = .leave ∨ op = .close)
    (sound : (panelStep panel (.gui movedFrom route)).2.worker.Sound) :
    Awaiting (history ++ [stageOf panelStep panel (.gui movedFrom route)])
      (panelStep panel (.gui movedFrom route)).2 := by
  have entered := awaiting.entered
  rw [known] at entered
  rcases ends with rfl | rfl
  · have asks : AudioPanel.asked movedFrom .leave = some .cancel := rfl
    have after : (panelStep panel (.gui movedFrom route)).2 = _ :=
      congrArg Prod.snd (guiStep_asks known asks route)
    refine ⟨sound, ?_, fun on _ => ?_⟩
    · rw [after]
      exact entered.tail
    · rw [after] at on
      cases on
  · have asks : AudioPanel.asked movedFrom .close = some .close := rfl
    have after : (panelStep panel (.gui movedFrom route)).2 = _ :=
      congrArg Prod.snd (guiStep_asks known asks route)
    refine ⟨sound, ?_, fun _ open_ => ?_⟩
    · rw [after]
      exact entered.tail
    · rw [after] at open_
      cases open_

theorem gui (awaiting : Awaiting history panel) (movedFrom : AudioInventory width)
    (route : SessionRoute width)
    (sound : (panelStep panel (.gui movedFrom route)).2.worker.Sound) :
    Awaiting (history ++ [stageOf panelStep panel (.gui movedFrom route)])
      (panelStep panel (.gui movedFrom route)).2 := by
  cases known : panel.todo with
  | nil => exact awaiting.gui_idle movedFrom route known sound
  | cons op rest =>
      cases op with
      | enter now => exact awaiting.gui_brings movedFrom route known ⟨now, .inl rfl⟩ sound
      | changed now => exact awaiting.gui_brings movedFrom route known ⟨now, .inr (.inl rfl)⟩ sound
      | request now => exact awaiting.gui_brings movedFrom route known ⟨now, .inr (.inr rfl)⟩ sound
      | leave => exact awaiting.gui_ends movedFrom route known (.inl rfl) sound
      | close => exact awaiting.gui_ends movedFrom route known (.inr rfl) sound
      | take now => exact awaiting.take known movedFrom route sound
      | start now constructed =>
          refine awaiting.calm_gui known movedFrom route rfl (fun _ => ⟨nofun, nofun⟩) sound ?_
          intro underway
          have same : (panelStep panel (.gui movedFrom route)).2.worker =
              (inventoryStep panel.worker (.startPending constructed)).2 := by
            refine inventoryPart.moves ?_
            change inventoryAsked panel (.gui movedFrom route) = _
            rw [inventoryAsked, known]
            rfl
          rw [same]
          exact underway.startPending constructed
      | takeChanged | refreshDue | pollInventory | launchFailed =>
          refine awaiting.calm_gui known movedFrom route rfl (fun _ => ⟨nofun, nofun⟩) sound ?_
          have rests : (panelStep panel (.gui movedFrom route)).2.worker = panel.worker := by
            refine inventoryPart.rests ?_
            change inventoryAsked panel (.gui movedFrom route) = none
            rw [inventoryAsked, known]
            rfl
          rw [rests]
          exact id

theorem step (awaiting : Awaiting history panel) (move : PanelMove width)
    (sound : (panelStep panel move).2.worker.Sound) :
    Awaiting (history ++ [stageOf panelStep panel move]) (panelStep panel move).2 := by
  cases move with
  | message message => exact awaiting.message message
  | gui movedFrom route => exact awaiting.gui movedFrom route sound
  | callback | startWatcher =>
      exact awaiting.kept (not_replaced fun _ asked => by cases asked) sound awaiting.entered id id
        fun _ waits => .inr (.inl waits)
  | probed id answer =>
      exact awaiting.thread rfl ⟨nofun, nofun, nofun⟩ rfl sound fun _ underway =>
        underway.probed id answer
  | completed id =>
      exact awaiting.thread rfl ⟨nofun, nofun, nofun⟩ rfl sound fun open_ underway =>
        underway.completed awaiting.sound open_ id

end Awaiting

/-! ## Who selects -/

/-- What a step selects for a role. -/
inductive ChosenBy (stage : PanelStage width) (role : AudioRole) : Prop
  | row {row : ℕ} {route : SessionRoute width}
      (input : stage.input = .message (.choose role (some row) route))
      (free : role = .ringtone ∨ route = none)
      (named : stage.before.rowId role row = some (stage.after.selection.get role))
  /-- The row of the dialog is looked up in the list that there is when it is closed. -/
  | preferences {rows : AudioRole → Option ℕ} {route : SessionRoute width} {row : ℕ}
      {device : AudioEndpoint width}
      (input : stage.input = .message (.closePreferences (some rows) route))
      (opened : stage.before.preferences.isSome = true) (free : role = .ringtone ∨ route = none)
      (selected : rows role = some row) (named : (stage.before.devices role)[row]? = some device)
      (same : stage.after.selection.get role = device.id)
  | session {movedFrom : AudioInventory width} {route : NativeAudioRoute width}
      (input : stage.input = .gui movedFrom (some route)) (voice : role ≠ .ringtone)
      (bound : stage.after.selection.get role =
        if role = .input then route.captureId else route.playbackId)

@[simp] theorem get_set (selection : AudioPanelSelection width) (id : WString width)
    (role other : AudioRole) :
    (selection.set id role).get other = if other = role then id else selection.get other := by
  cases role <;> cases other <;> rfl

@[simp] theorem fixedNativeAudioSelection_id (devices : List (AudioEndpoint width))
    (id : WString width) : (fixedNativeAudioSelection devices id).selectedId = id := by
  unfold fixedNativeAudioSelection
  split <;> rfl

@[simp] theorem fixedNativeRingtoneSelection_id (outputs : List (AudioEndpoint width))
    (id : WString width) : (fixedNativeRingtoneSelection outputs id).selectedId = id := by
  unfold fixedNativeRingtoneSelection
  split <;> rfl

/-- An inventory leaves what is selected alone, save for the route of the session. -/
theorem applyAudioInventory_selection (panel : AudioPanel width) (inventory : AudioInventory width)
    (route : SessionRoute width) :
    (panel.applyAudioInventory inventory route).selection =
      route.elim panel.selection fun route =>
        { panel.selection with inputId := route.captureId, outputId := route.playbackId } := by
  unfold AudioPanel.applyAudioInventory
  dsimp only
  split
  · rfl
  · simp only [fixedNativeAudioSelection_id, fixedNativeRingtoneSelection_id]

theorem finish_selection (panel : AudioPanel width) (route : SessionRoute width)
    (observed : Option (InventoryObserved width)) (op : PanelOp) :
    (panel.finish route observed op).selection = panel.selection ∨
      ∃ bound, route = some bound ∧ (panel.finish route observed op).selection =
        { panel.selection with inputId := bound.captureId, outputId := bound.playbackId } := by
  cases op with
  | enter | takeChanged | changed | request | leave | close => exact .inl rfl
  | refreshDue | launchFailed | start =>
      refine .inl ?_
      simp only [AudioPanel.finish]
      split <;> rfl
  | pollInventory =>
      refine .inl ?_
      simp only [AudioPanel.finish]
      split
      · rfl
      · split <;> rfl
  | take =>
      simp only [AudioPanel.finish]
      split
      · rw [applyAudioInventory_selection]
        cases route with
        | none => exact .inl rfl
        | some bound => exact .inr ⟨bound, rfl, rfl⟩
      · exact .inl rfl

/-- The row of a role changes that role only. -/
theorem prefer_selection (panel : AudioPanel width) (rows : AudioRole → Option ℕ)
    (role other : AudioRole) :
    (panel.prefer rows role).selection.get other = panel.selection.get other ∨
      other = role ∧ ∃ row device, rows role = some row ∧ (panel.devices role)[row]? = some device ∧
        (panel.prefer rows role).selection.get other = device.id := by
  unfold AudioPanel.prefer
  split
  · next device found =>
      obtain ⟨row, selected, named⟩ := Option.bind_eq_some_iff.mp found
      by_cases same : other = role
      · subst same
        exact .inr ⟨rfl, row, device, selected, named, by simp⟩
      · exact .inl (by simp [same])
  · exact .inl rfl

theorem prefer_devices (panel : AudioPanel width) (rows : AudioRole → Option ℕ)
    (role other : AudioRole) : (panel.prefer rows role).devices other = panel.devices other := by
  have same := SameDevices.prefer panel rows role
  cases other with
  | input => exact same.inputs
  | output => exact same.outputs
  | ringtone => exact same.outputs

/-- What a row has selected, in the lists of the panel. -/
def Preferred (panel after : AudioPanel width) (rows : AudioRole → Option ℕ) (role : AudioRole) :
    Prop :=
  ∃ row device, rows role = some row ∧ (panel.devices role)[row]? = some device ∧
    after.selection.get role = device.id

theorem acceptPreferences_selection (panel : AudioPanel width) (rows : AudioRole → Option ℕ)
    (route : SessionRoute width) (role : AudioRole) :
    (panel.acceptPreferences rows route).selection.get role = panel.selection.get role ∨
      (role = .ringtone ∨ route = none) ∧
        Preferred panel (panel.acceptPreferences rows route) rows role := by
  cases route with
  | some bound =>
      rcases prefer_selection panel rows .ringtone role with same | ⟨ring, chosen⟩
      · exact .inl same
      · subst ring
        exact .inr ⟨.inl rfl, chosen⟩
  | none =>
      have lists (other : AudioRole) :
          ((panel.prefer rows .input).prefer rows .output).devices other = panel.devices other := by
        rw [prefer_devices, prefer_devices]
      rcases prefer_selection ((panel.prefer rows .input).prefer rows .output) rows .ringtone role
        with same | ⟨ring, row, device, selected, named, chosen⟩
      · rcases prefer_selection (panel.prefer rows .input) rows .output role
          with before | ⟨output, row, device, selected, named, chosen⟩
        · rcases prefer_selection panel rows .input role
            with first | ⟨input, row, device, selected, named, chosen⟩
          · exact .inl (same.trans (before.trans first))
          · subst input
            exact .inr ⟨.inr rfl, row, device, selected, named, same.trans (before.trans chosen)⟩
        · subst output
          rw [prefer_devices] at named
          exact .inr ⟨.inr rfl, row, device, selected, named, same.trans chosen⟩
      · subst ring
        rw [lists] at named
        exact .inr ⟨.inl rfl, row, device, selected, named, chosen⟩

theorem chosen_message (panel : AudioPanel width) (message : PanelMessage width) (role : AudioRole) :
    (panelStep panel (.message message)).2.selection.get role = panel.selection.get role ∨
      ChosenBy (stageOf panelStep panel (.message message)) role := by
  cases idle : panel.todo.isEmpty with
  | false =>
      refine .inl ?_
      simp [panelStep, idle]
  | true =>
      have after : (panelStep panel (.message message)).2 = panel.handle message := by
        simp [panelStep, idle]
      cases message with
      | timer | showPage | refreshButton | openPreferences | destroy =>
          exact .inl (by rw [after]; rfl)
      | deviceChange kind now =>
          refine .inl ?_
          rw [after]
          simp only [AudioPanel.handle]
          split <;> rfl
      | choose chosen row route =>
          change _ = panel.choose chosen row route at after
          rw [after]
          unfold AudioPanel.choose at after ⊢
          split
          · exact .inl rfl
          · next free =>
              rw [if_neg free] at after
              split
              · next id found =>
                  rw [found] at after
                  obtain ⟨row, rfl, named⟩ := Option.bind_eq_some_iff.mp found
                  by_cases same : role = chosen
                  · subst same
                    refine .inr (.row rfl ?_ ?_)
                    · simpa [Decidable.or_iff_not_imp_left] using free
                    · change panel.rowId role row =
                        some ((panelStep panel (.message (.choose role (some row) route))).2.selection.get role)
                      rw [after, get_set, if_pos rfl]
                      exact named
                  · exact .inl (by simp [same])
              · exact .inl rfl
      | closePreferences rows route =>
          change _ = panel.handle (.closePreferences rows route) at after
          rw [after]
          simp only [AudioPanel.handle] at after ⊢
          split
          · next draft rows opened =>
              rcases acceptPreferences_selection panel rows route role with
                same | ⟨free, row, device, selected, named, chosen⟩
              · exact .inl same
              · refine .inr (.preferences rfl ?_ free selected named ?_)
                · change panel.preferences.isSome = true
                  rw [opened]
                  rfl
                · change (panelStep panel (.message (.closePreferences (some rows) route))).2.selection.get
                    role = device.id
                  rw [opened] at after
                  rw [after]
                  exact chosen
          · exact .inl rfl

theorem chosen_step (panel : AudioPanel width) (move : PanelMove width) (role : AudioRole) :
    (panelStep panel move).2.selection.get role = panel.selection.get role ∨
      ChosenBy (stageOf panelStep panel move) role := by
  cases move with
  | message message => exact chosen_message panel message role
  | callback | startWatcher | probed | completed => exact .inl rfl
  | gui movedFrom route =>
      cases known : panel.todo with
      | nil =>
          refine .inl ?_
          simp only [panelStep, guiStep_idle known]
      | cons op rest =>
          obtain ⟨worker, observed, after⟩ := guiStep_finish known movedFrom route
          have after : (panelStep panel (.gui movedFrom route)).2 = _ := after
          rcases finish_selection { panel with todo := rest, worker := worker } route observed op
            with same | ⟨bound, rfl, same⟩
          · refine .inl ?_
            rw [after, same]
          · have selected : (panelStep panel (.gui movedFrom (some bound))).2.selection =
                { panel.selection with
                  inputId := bound.captureId, outputId := bound.playbackId } := by
              rw [after]
              exact same
            cases role with
            | ringtone =>
                refine .inl ?_
                rw [selected]
                rfl
            | input => exact .inr (.session rfl nofun (congrArg (·.get .input) selected))
            | output => exact .inr (.session rfl nofun (congrArg (·.get .output) selected))

theorem output_within (panel : AudioPanel width) (move : PanelMove width)
    {inner : InventoryStage width}
    (within : inventoryPart.within (stageOf panelStep panel move) = some inner) :
    (stageOf panelStep panel move).output = .worker inner.output := by
  obtain ⟨asks, asked, rfl⟩ := Option.map_eq_some_iff.mp within
  cases move with
  | gui movedFrom route =>
      cases known : panel.todo with
      | nil =>
          change inventoryAsked panel (.gui movedFrom route) = some asks at asked
          rw [inventoryAsked, known] at asked
          cases asked
      | cons op rest =>
          change inventoryAsked panel (.gui movedFrom route) = some asks at asked
          rw [inventoryAsked, known] at asked
          exact congrArg Prod.fst (guiStep_asks known asked route)
  | probed | completed =>
      cases asked
      rfl
  | message | callback | startWatcher => cases asked

theorem honest_within (history : List (PanelStage width)) :
    ∀ inner ∈ history.filterMap inventoryPart.within, Honest inner := by
  intro inner member
  obtain ⟨stage, -, within⟩ := List.mem_filterMap.mp member
  obtain ⟨asks, -, rfl⟩ := Option.map_eq_some_iff.mp within
  rfl

/-- What the panel keeps to over a run, from its launch on. -/
structure PanelKept (now requested : UInt64) (moves : List (PanelMove width)) : Prop where
  /-- What is shown as current was asked of the drivers behind every change but one that waits. -/
  fresh : (finalState panelStep (.launched now requested) moves).current = true →
    (finalState panelStep (.launched now requested) moves).worker.state.snapshot.closed = false →
    ¬ (finalState panelStep (.launched now requested) moves).Unseen →
      ∃ first request rest thread inventory,
        stages panelStep (.launched now requested) moves = first ++ request :: rest ∧
          request.output = .worker (.requested true) ∧
          (∀ stage ∈ rest, ¬ Notifies stage ∧ ¬ Replaced stage) ∧
          Answered thread inventory (rest.filterMap inventoryPart.within) ∧
          inventory.error = .none ∧
          (finalState panelStep (.launched now requested) moves).inputs = inventory.inputDevices ∧
          (finalState panelStep (.launched now requested) moves).outputs = inventory.outputDevices
  /-- No change is lost. -/
  noticed : Outstanding Notifies Replaced (stages panelStep (.launched now requested) moves) →
    (finalState panelStep (.launched now requested) moves).Unseen
  /-- A panel that is not current awaits an inventory, or could not get the last one. -/
  awaited : (finalState panelStep (.launched now requested) moves).policy.active = true →
    (finalState panelStep (.launched now requested) moves).worker.state.snapshot.closed = false →
      (finalState panelStep (.launched now requested) moves).current = true ∨
        (finalState panelStep (.launched now requested) moves).Awaits ∨
          Outstanding Fails Replaced (stages panelStep (.launched now requested) moves)
  /-- The devices of a role change by its own row, or with the session. -/
  chosen : ∀ stage ∈ stages panelStep (.launched now requested) moves, ∀ role,
    stage.after.selection.get role = stage.before.selection.get role ∨ ChosenBy stage role

theorem panel_kept (now requested : UInt64) (moves : List (PanelMove width)) :
    PanelKept now requested moves := by
  have known := @history_invariant _ _ _ (@panelStep width)
    (fun history panel => Noticing history panel ∧ Showing history panel ∧ Awaiting history panel)
    (fun _ => True)
    (fun history panel move known _ => ⟨known.1.step move, known.2.1.step move,
      known.2.2.step move (known.2.1.step move).traced.sound⟩) [] (.launched now requested)
    ⟨.initial now requested, .initial now requested, .initial now requested⟩ moves
    fun _ _ => trivial
  rw [List.nil_append] at known
  obtain ⟨noticing, showing, awaiting⟩ := known
  refine ⟨fun current open_ seen => ?_, noticing.noticed, awaiting.awaits, ?_⟩
  · obtain ⟨thread, inventory, course, fine, listed⟩ := showing.shown current open_
    obtain ⟨older, inner, later, split, asks, calm, answered⟩ := course.asked (honest_within _)
    obtain ⟨first, request, rest, same, within, rfl⟩ := inventoryPart.split_within split
    have shows : ∀ stage ∈ stages panelStep (AudioPanel.launched now requested) moves,
        ∀ inner, inventoryPart.within stage = some inner → stage.output = .worker inner.output :=
      stages_forall_of_step _ (fun panel move inner within => output_within panel move within)
        (AudioPanel.launched now requested) moves
    have unreplaced : ∀ stage ∈ rest, ¬ Replaced stage := by
      rintro stage member ⟨part, known, replaces⟩
      exact calm part (List.mem_filterMap.mpr ⟨stage, member, known⟩) replaces
    refine ⟨first, request, rest, thread, inventory, same, ?_, fun stage member => ⟨?_, ?_⟩,
      answered, fine, listed⟩
    · rw [shows request (by simp [same]) inner within, asks]
    · intro notifies
      obtain ⟨before, after, rfl⟩ := List.append_of_mem member
      refine seen (noticing.noticed ⟨first ++ request :: before, stage, after, ?_, notifies, ?_⟩)
      · simp [same]
      · exact fun later inside => unreplaced later (List.mem_append_right _ (.tail _ inside))
    · exact unreplaced stage member
  · refine stages_forall_of_step _ ?_ (AudioPanel.launched now requested) moves
    exact fun panel move role => chosen_step panel move role

end AxeVoice.Audio
