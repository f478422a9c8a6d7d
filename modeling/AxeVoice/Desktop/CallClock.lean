import AxeVoice.Cti.Cursor
import AxeVoice.Desktop.CallPanel

/-!
# The clock of a call

The label tells how long the call that is displayed has been in conversation: from
the first refresh of the banner that shows it so, to the latest reading of the
clock since.  The clock may fall back; the time that is told never does.
-/

namespace AxeVoice.Desktop

open Cti Foundation Native Sip

variable {width : WCharWidth} {ctype : WideCtype width}

def narrowed (text : WString width) : Bytes := text.map fun unit => UInt8.ofNat unit.toNat

theorem narrowed_wideText (text : String) : narrowed (wideText width text) = asciiBytes text := by
  unfold narrowed wideText asciiBytes
  rw [List.map_map]
  refine List.map_congr_left fun character _ => ?_
  refine UInt8.toNat_inj.mp ?_
  have wide_ : (wide width character).toNat = character.toNat % 2 ^ width.bits := BitVec.toNat_ofNat ..
  rw [Function.comp_apply, wide_, UInt8.toNat_ofNat', UInt8.toNat_ofNat']
  cases width <;> exact Nat.mod_mod_of_dvd _ (by decide)

theorem numeral_wideText (number : ℕ) :
    numeral (narrowed (wideText width (toString number))) = number := by
  rw [narrowed_wideText, asciiBytes, Nat.toString_eq_repr, Nat.toList_repr]
  exact numeral_toDigits number

/-- A number, with a leading zero where it is asked for. -/
def paddedNumber (width : WCharWidth) (padded : Bool) (number : ℕ) : WString width :=
  wideText width (if padded then "0" else "") ++ wideText width (toString number)

theorem numeral_paddedNumber (padded : Bool) (number : ℕ) :
    numeral (narrowed (paddedNumber width padded number)) = number := by
  have zero : numeralFrom 0 (narrowed (wideText width "0")) = 0 := by
    rw [narrowed_wideText]
    rfl
  have digits := @numeral_wideText width number
  cases padded with
  | false => exact digits
  | true =>
      have split : narrowed (paddedNumber width true number) =
          narrowed (wideText width "0") ++ narrowed (wideText width (toString number)) :=
        List.map_append
      rw [split, numeral, numeralFrom_append, zero]
      exact digits

/-- Minutes and seconds take two places. -/
theorem length_paddedNumber {number : ℕ} (small : number < 60) :
    (paddedNumber width (number < 10) number).length = 2 := by
  have digits : (Nat.toDigits 10 number).length = if number < 10 then 1 else 2 := by
    revert number
    decide
  rw [paddedNumber, List.length_append, wideText, wideText, List.length_map, List.length_map,
    Nat.toString_eq_repr, Nat.toList_repr, digits]
  by_cases single : number < 10 <;> simp [single]

theorem formatCallDuration_eq (elapsedMs : UInt64) : ∃ padded,
    formatCallDuration width elapsedMs =
      paddedNumber width padded (elapsedMs.toNat / 1000 / 3600) ++
        (wideText width ":" ++
          (paddedNumber width (elapsedMs.toNat / 1000 / 60 % 60 < 10)
            (elapsedMs.toNat / 1000 / 60 % 60) ++
          (wideText width ":" ++
            paddedNumber width (elapsedMs.toNat / 1000 % 60 < 10) (elapsedMs.toNat / 1000 % 60)))) := by
  refine ⟨(toString (elapsedMs.toNat / 1000 / 3600)).length < 2, ?_⟩
  simp [formatCallDuration, paddedNumber]

/-- The text tells the whole seconds. -/
theorem formatCallDuration_eq_iff (elapsedMs otherMs : UInt64) :
    formatCallDuration width elapsedMs = formatCallDuration width otherMs ↔
      elapsedMs.toNat / 1000 = otherMs.toNat / 1000 := by
  constructor
  · intro same
    obtain ⟨padded, text⟩ := @formatCallDuration_eq width elapsedMs
    obtain ⟨padded', text'⟩ := @formatCallDuration_eq width otherMs
    rw [text, text'] at same
    have minutes (elapsed : ℕ) : elapsed / 60 % 60 < 60 := Nat.mod_lt _ (by decide)
    have seconds (elapsed : ℕ) : elapsed % 60 < 60 := Nat.mod_lt _ (by decide)
    obtain ⟨hour, tail⟩ := List.append_inj' same (by
      simp only [List.length_append, length_paddedNumber (minutes _), length_paddedNumber (seconds _)])
    have rest := List.append_cancel_left tail
    obtain ⟨minute, tail⟩ := List.append_inj rest (by
      rw [length_paddedNumber (minutes _), length_paddedNumber (minutes _)])
    have second := List.append_cancel_left tail
    have value {padded padded' : Bool} {number other : ℕ}
        (same : paddedNumber width padded number = paddedNumber width padded' other) :
        number = other := by
      have read := congrArg (fun text => numeral (narrowed text)) same
      simpa only [numeral_paddedNumber] using read
    have hours := value hour
    have minutes := value minute
    have seconds := value second
    omega
  · intro same
    unfold formatCallDuration
    rw [same]

/-- What a refresh of the banner observes, with what the clock reads then. -/
abbrev Sighting := SipRuntimeObservation × UInt64

/-- The call that is timed, in conversation. -/
structure Conversing (duration : NativeCallDuration) (sighting : Sighting) : Prop where
  measured : NativeCallDuration.measures sighting.1 = true
  session : sighting.1.session = duration.session
  callId : sighting.1.callId = duration.callId

/-- The time of a call runs from the first sighting of its conversation to the latest reading. -/
structure Timed (seen : List Sighting) (duration : NativeCallDuration) : Prop where
  running : duration.active = true → ∃ older first rest latest, seen = older ++ first :: rest ∧
    (∀ sighting ∈ first :: rest, Conversing duration sighting) ∧
    (∀ sighting ∈ older.getLast?, ¬ Conversing duration sighting) ∧
    latest ∈ first :: rest ∧ (∀ sighting ∈ first :: rest, sighting.2 ≤ latest.2) ∧
    duration.startMs = first.2 ∧ duration.lastMs = latest.2
  last : ∀ sighting ∈ seen.getLast?,
    if duration.active then Conversing duration sighting
    else NativeCallDuration.measures sighting.1 = false

theorem timed_nil : Timed [] {} := ⟨nofun, nofun⟩

section Observe

variable {seen : List Sighting} {duration : NativeCallDuration} {sighting : Sighting}

/-- A sighting that is not in conversation with the call that is timed begins another time. -/
theorem Timed.begins (timed : Timed seen duration)
    (measured : NativeCallDuration.measures sighting.1 = true)
    (other : ¬ (duration.active = true ∧ Conversing duration sighting)) :
    Timed (seen ++ [sighting])
      ⟨true, sighting.1.session, sighting.1.callId, sighting.2, sighting.2⟩ := by
  refine ⟨fun _ => ?_, fun shown same => ?_⟩
  · refine ⟨seen, sighting, [], sighting, rfl, ?_, ?_, List.mem_cons_self, ?_, rfl, rfl⟩
    · intro shown member
      rw [List.mem_singleton.mp member]
      exact ⟨measured, rfl, rfl⟩
    · intro shown member conversing
      have known := timed.last shown member
      cases active : duration.active with
      | false =>
          rw [active] at known
          cases known.symm.trans conversing.measured
      | true =>
          rw [active] at known
          have known : Conversing duration shown := known
          refine other ⟨active, measured, ?_, ?_⟩
          · exact conversing.session.symm.trans known.session
          · exact conversing.callId.symm.trans known.callId
    · intro shown member
      rw [List.mem_singleton.mp member]
      exact UInt64.le_refl _
  · rw [List.getLast?_concat, Option.mem_some] at same
    subst same
    exact ⟨measured, rfl, rfl⟩

/-- A sighting of the conversation that is timed. -/
theorem Timed.continues (timed : Timed seen duration) (active : duration.active = true)
    (conversing : Conversing duration sighting) :
    Timed (seen ++ [sighting])
      (if sighting.2 > duration.lastMs then { duration with lastMs := sighting.2 } else duration) := by
  obtain ⟨older, first, rest, latest, rfl, conversed, before, member, bound, start, last⟩ :=
    timed.running active
  rw [List.append_assoc, List.cons_append]
  split
  · next later =>
      refine ⟨fun _ => ⟨older, first, rest ++ [sighting], sighting, rfl, ?_, ?_, ?_, ?_, start, rfl⟩, ?_⟩
      · rw [← List.cons_append]
        exact forall_mem_concat (fun shown among => ⟨(conversed shown among).measured,
          (conversed shown among).session, (conversed shown among).callId⟩)
          ⟨conversing.measured, conversing.session, conversing.callId⟩
      · exact fun shown same again => before shown same ⟨again.measured, again.session, again.callId⟩
      · exact List.mem_cons_of_mem _ (List.mem_append_right _ List.mem_cons_self)
      · rw [← List.cons_append]
        refine forall_mem_concat (fun shown among => ?_) (UInt64.le_refl _)
        exact UInt64.le_trans (bound shown among) (last ▸ UInt64.le_of_lt later)
      · intro shown same
        rw [← List.cons_append, ← List.append_assoc, List.getLast?_concat, Option.mem_some] at same
        subst same
        rw [if_pos active]
        exact ⟨conversing.measured, conversing.session, conversing.callId⟩
  · next earlier =>
      refine ⟨fun _ => ⟨older, first, rest ++ [sighting], latest, rfl, ?_, before, ?_, ?_, start,
        last⟩, ?_⟩
      · rw [← List.cons_append]
        exact forall_mem_concat conversed conversing
      · rw [← List.cons_append]
        exact List.mem_append_left _ member
      · rw [← List.cons_append]
        exact forall_mem_concat bound (last ▸ UInt64.not_lt.mp earlier)
      · intro shown same
        rw [← List.cons_append, ← List.append_assoc, List.getLast?_concat, Option.mem_some] at same
        subst same
        rw [if_pos active]
        exact conversing

theorem Timed.observe (timed : Timed seen duration) (sighting : Sighting) :
    Timed (seen ++ [sighting]) (duration.observe sighting.1 sighting.2).2 := by
  unfold NativeCallDuration.observe
  split
  · next unmeasured =>
      refine ⟨nofun, fun shown same => ?_⟩
      rw [List.getLast?_concat, Option.mem_some] at same
      subst same
      simpa using unmeasured
  · next measured =>
      rw [Bool.not_eq_true', Bool.not_eq_false] at measured
      dsimp only
      split
      · next other =>
          refine timed.begins measured ?_
          rintro ⟨active, conversing⟩
          simp [active, conversing.session, conversing.callId] at other
      · next same =>
          simp only [Bool.or_eq_true, Bool.not_eq_true', decide_eq_true_eq, not_or,
            Bool.not_eq_false, not_not] at same
          exact timed.continues same.1.1 ⟨measured, same.1.2.symm, same.2.symm⟩

end Observe

def elapsed (duration : NativeCallDuration) : UInt64 := duration.lastMs - duration.startMs

/-- What the label shows of the time. -/
def snapshotOf (duration : NativeCallDuration) : CallDurationSnapshot :=
  if duration.active then ⟨true, elapsed duration⟩ else {}

theorem observe_snapshot (duration : NativeCallDuration) (observed : SipRuntimeObservation)
    (now : UInt64) :
    (duration.observe observed now).1 = snapshotOf (duration.observe observed now).2 := by
  unfold NativeCallDuration.observe
  split
  · rfl
  · dsimp only
    split
    · rfl
    · next same =>
        simp only [Bool.or_eq_true, Bool.not_eq_true', not_or, Bool.not_eq_false] at same
        split
        · rw [snapshotOf, if_pos same.1.1]
          rfl
        · rw [snapshotOf, if_pos same.1.1]
          rfl

/-- What a refresh of the banner observes. -/
def sightedAt (stage : CallPanelStage width) : Option Sighting :=
  match stage.input, stage.before.point with
  | .gui now, .refreshing => some (stage.before.observation, now)
  | _, _ => none

/-- Only the beginning of a refresh changes the time, and the call that is displayed. -/
theorem callPanelStep_sighted (panel : CallPanel width) (move : CallPanelMove width) :
    (∃ now, sightedAt (stageOf (callPanelStep ctype) panel move) = some (panel.observation, now) ∧
      (callPanelStep ctype panel move).2 = panel.observe now) ∨
    sightedAt (stageOf (callPanelStep ctype) panel move) = none ∧
      (callPanelStep ctype panel move).2.duration = panel.duration ∧
      (callPanelStep ctype panel move).2.durationLabel = panel.durationLabel ∧
      (callPanelStep ctype panel move).2.displayed = panel.displayed := by
  cases move with
  | owner move =>
      right
      simp only [callPanelStep]
      split <;> exact ⟨rfl, rfl, rfl, rfl⟩
  | gui now =>
      cases point : panel.point with
      | refreshing =>
          left
          refine ⟨now, ?_, ?_⟩
          · simp only [sightedAt, stageOf, point]
          · simp only [callPanelStep, CallPanel.guiStep, point]
      | idle | gating | showing | toggling | recording | submitting =>
          refine .inr ⟨by simp only [sightedAt, stageOf, point], ?_⟩
          simp [callPanelStep, CallPanel.guiStep, point, CallPanel.gate, CallPanel.showMedia]
      | keying | controlling | answering | preferring | transferring =>
          refine .inr ⟨by simp only [sightedAt, stageOf, point], ?_⟩
          simp only [callPanelStep, CallPanel.guiStep, point]
          split <;> exact ⟨rfl, rfl, rfl⟩
  | message message =>
      right
      simp only [callPanelStep]
      split
      · cases message with
        | press button => cases button <;> exact ⟨rfl, rfl, rfl, rfl⟩
        | key index =>
            simp only [CallPanel.handle, CallPanel.pressKey]
            split <;> exact ⟨rfl, rfl, rfl, rfl⟩
        | confirm yes =>
            simp only [CallPanel.handle]
            split <;> exact ⟨rfl, rfl, rfl, rfl⟩
        | call move =>
            simp only [CallPanel.handle]
            split <;> exact ⟨rfl, rfl, rfl, rfl⟩
        | refresh | preferences | backspace | clear | edit => exact ⟨rfl, rfl, rfl, rfl⟩
      · exact ⟨rfl, rfl, rfl, rfl⟩

/-- The label, and the call that is displayed, go with the time. -/
structure Clocked (seen : List Sighting) (panel : CallPanel width) : Prop where
  timed : Timed seen panel.duration
  displayed : panel.displayed = (seen.getLast?.map Prod.fst).getD {}
  label : panel.durationLabel = durationText width (snapshotOf panel.duration)

theorem Clocked.step {history : List (CallPanelStage width)} {panel : CallPanel width}
    (clocked : Clocked (history.filterMap sightedAt) panel) (move : CallPanelMove width) :
    Clocked ((history ++ [stageOf (callPanelStep ctype) panel move]).filterMap sightedAt)
      (callPanelStep ctype panel move).2 := by
  rw [List.filterMap_append]
  rcases @callPanelStep_sighted _ ctype panel move with ⟨now, sighted, observed⟩ |
    ⟨unsighted, duration, label, displayed⟩
  · rw [List.filterMap_cons_some sighted, List.filterMap_nil, observed]
    refine ⟨clocked.timed.observe _, ?_, ?_⟩
    · rw [List.getLast?_concat]
      rfl
    · exact congrArg (durationText width) (observe_snapshot _ _ _)
  · rw [List.filterMap_cons_none unsighted, List.filterMap_nil, List.append_nil]
    exact ⟨duration ▸ clocked.timed, displayed.trans clocked.displayed,
      label.trans (duration ▸ clocked.label)⟩

theorem clocked_run (ctype : WideCtype width) (moves : List (CallPanelMove width)) :
    Clocked ((stages (callPanelStep ctype) {} moves).filterMap sightedAt)
      (finalState (callPanelStep ctype) {} moves) := by
  have known := @history_invariant _ _ _ (callPanelStep ctype)
    (fun history panel => Clocked (history.filterMap sightedAt) panel) (fun _ => True)
    (fun _ _ move known _ => known.step move) [] ({} : CallPanel width) ⟨timed_nil, rfl, rfl⟩ moves
    fun _ _ => trivial
  rwa [List.nil_append] at known

/-- The time of a call does not fall while the call is timed. -/
theorem elapsed_observe {duration : NativeCallDuration} (sound : duration.startMs ≤ duration.lastMs)
    {observed : SipRuntimeObservation} {now : UInt64}
    (active : duration.active = true) (after : (duration.observe observed now).2.active = true)
    (same : (duration.observe observed now).2.session = duration.session ∧
      (duration.observe observed now).2.callId = duration.callId) :
    elapsed duration ≤ elapsed (duration.observe observed now).2 := by
  unfold NativeCallDuration.observe at after same ⊢
  split at after
  · cases after
  · next measured =>
      rw [if_neg measured] at same ⊢
      dsimp only at same ⊢
      split at same
      · next other =>
          have session : observed.session = duration.session := same.1
          have callId : observed.callId = duration.callId := same.2
          simp [active, session, callId] at other
      · next kept =>
          rw [if_neg kept]
          split
          · next later =>
              unfold elapsed
              rw [UInt64.le_iff_toNat_le, UInt64.toNat_sub_of_le _ _ sound,
                UInt64.toNat_sub_of_le _ _ (UInt64.le_trans sound (UInt64.le_of_lt later))]
              exact Nat.sub_le_sub_right (UInt64.le_iff_toNat_le.mp (UInt64.le_of_lt later)) _
          · exact UInt64.le_refl _

/-- What the label tells of the call that is displayed. -/
structure TellsTime (ctype : WideCtype width) (moves : List (CallPanelMove width)) : Prop where
  /-- The time is that of the call that is displayed, while it is in conversation. -/
  timed : (finalState (callPanelStep ctype) {} moves).duration.active =
      NativeCallDuration.measures (finalState (callPanelStep ctype) {} moves).displayed ∧
    ((finalState (callPanelStep ctype) {} moves).duration.active = true →
      (finalState (callPanelStep ctype) {} moves).displayed.session =
          (finalState (callPanelStep ctype) {} moves).duration.session ∧
        (finalState (callPanelStep ctype) {} moves).displayed.callId =
          (finalState (callPanelStep ctype) {} moves).duration.callId)
  /-- It runs from the first sighting of the conversation to the latest reading of the clock. -/
  told : (finalState (callPanelStep ctype) {} moves).duration.active = true →
    ∃ older first rest latest, (stages (callPanelStep ctype) {} moves).filterMap sightedAt =
        older ++ first :: rest ∧
      (∀ sighting ∈ first :: rest,
        Conversing (finalState (callPanelStep ctype) {} moves).duration sighting) ∧
      (∀ sighting ∈ older.getLast?,
        ¬ Conversing (finalState (callPanelStep ctype) {} moves).duration sighting) ∧
      latest ∈ first :: rest ∧ (∀ sighting ∈ first :: rest, sighting.2 ≤ latest.2) ∧
      (finalState (callPanelStep ctype) {} moves).durationLabel =
        wideText width "DURACAO " ++ formatCallDuration width (latest.2 - first.2)
  untold : (finalState (callPanelStep ctype) {} moves).duration.active = false →
    (finalState (callPanelStep ctype) {} moves).durationLabel = wideText width "DURACAO --:--:--"
  /-- Whatever the clock reads, the time of a call never falls. -/
  grows : ∀ stage ∈ stages (callPanelStep ctype) {} moves, stage.before.duration.active = true →
    stage.after.duration.active = true →
    stage.after.duration.session = stage.before.duration.session →
    stage.after.duration.callId = stage.before.duration.callId →
      elapsed stage.before.duration ≤ elapsed stage.after.duration
  /-- The text tells the whole seconds. -/
  legible : ∀ some_ other : UInt64,
    formatCallDuration width some_ = formatCallDuration width other ↔
      some_.toNat / 1000 = other.toNat / 1000

theorem call_time_told (ctype : WideCtype width) (moves : List (CallPanelMove width)) :
    TellsTime ctype moves := by
  have clocked := clocked_run ctype moves
  refine ⟨?_, ?_, ?_, ?_, formatCallDuration_eq_iff⟩
  · have last := clocked.timed.last
    rw [clocked.displayed]
    cases shown : ((stages (callPanelStep ctype) {} moves).filterMap sightedAt).getLast? with
    | none =>
        have idle : (finalState (callPanelStep ctype) {} moves).duration.active = false := by
          by_contra active
          obtain ⟨older, first, rest, -, split, -⟩ := clocked.timed.running (by simpa using active)
          rw [List.getLast?_eq_none_iff, split] at shown
          exact absurd shown (by simp)
        rw [idle]
        exact ⟨rfl, fun running => by cases running⟩
    | some sighting =>
        have known := last sighting shown
        cases active : (finalState (callPanelStep ctype) {} moves).duration.active with
        | false =>
            rw [active] at known
            exact ⟨known.symm, fun running => by cases running⟩
        | true =>
            rw [active] at known
            have known : Conversing _ sighting := known
            exact ⟨known.measured.symm, fun _ => ⟨known.session, known.callId⟩⟩
  · intro active
    obtain ⟨older, first, rest, latest, split, conversed, before, member, bound, start, last⟩ :=
      clocked.timed.running active
    refine ⟨older, first, rest, latest, split, conversed, before, member, bound, ?_⟩
    rw [clocked.label, snapshotOf, if_pos active, durationText, if_pos rfl, elapsed, start, last]
  · intro inactive
    rw [clocked.label, snapshotOf, if_neg (by rw [inactive]; decide)]
    rfl
  · intro stage member active after session callId
    obtain ⟨before, later, split⟩ := List.append_of_mem member
    obtain ⟨first, move, rest, rfl, rfl, rfl, -⟩ := stages_split split
    obtain ⟨older, start, others, latest, -, -, -, among, bound, starts, lasts⟩ :=
      (clocked_run ctype first).timed.running active
    have sound : (finalState (callPanelStep ctype) {} first).duration.startMs ≤
        (finalState (callPanelStep ctype) {} first).duration.lastMs := by
      rw [starts, lasts]
      exact bound start List.mem_cons_self
    rcases @callPanelStep_sighted _ ctype (finalState (callPanelStep ctype) {} first) move with
      ⟨now, -, observed⟩ | ⟨-, duration, -⟩
    · have kept : (callPanelStep ctype (finalState (callPanelStep ctype) {} first) move).2.duration =
          ((finalState (callPanelStep ctype) {} first).duration.observe
            (finalState (callPanelStep ctype) {} first).observation now).2 := by
        rw [observed]
        rfl
      rw [stageOf, kept] at after session callId
      rw [stageOf, kept]
      exact elapsed_observe sound active after ⟨session, callId⟩
    · rw [stageOf, duration]
      exact UInt64.le_refl _

end AxeVoice.Desktop
