import AxeVoice.Foundation.Reactive
import AxeVoice.Sip.CallView

/-!
# Runs of the reducer

What the reducer keeps from the start of a session on, whatever events come and
whichever session they are applied for.  The call number and the status say the
same, the highest call number survives the end of every call, and so no number
that has had its call is shown again.
-/

namespace AxeVoice.Sip

open AxeVoice.Foundation

/-- One call of the reducer: the session asked about, and the event. -/
structure ReducerInput where
  activeSession : UInt64
  event : BaresipNativeEvent
  deriving DecidableEq, Repr

def reducerStep (state : SipRuntimeObservation) (input : ReducerInput) :
    EventTransition × SipRuntimeObservation :=
  applyBaresipEvent state input.activeSession input.event

abbrev ReducerStage := Stage SipRuntimeObservation ReducerInput EventTransition

/-- The call number goes with the status, and is the highest one where there is one. -/
structure CallLinked (observation : SipRuntimeObservation) : Prop where
  coherent : observation.Coherent
  newest : observation.callId ≠ 0 → observation.callId = observation.lastCallId

theorem callLinked_opened (session : UInt64) :
    CallLinked (.opened .running .verifiedNativeApi session) :=
  ⟨coherent_opened _ session, fun shown => absurd rfl shown⟩

/-- What an accepted event does to the call numbers. -/
structure NumbersMoved (state : SipRuntimeObservation) (fields : CallFields) : Prop where
  rises : state.lastCallId ≤ fields.lastCallId
  newest : fields.nextCallId ≠ 0 → (state.callId ≠ 0 → state.callId = state.lastCallId) →
    fields.nextCallId = fields.lastCallId
  /-- A number that is shown anew lies above all that were shown before. -/
  fresh : fields.nextCallId = 0 ∨ fields.nextCallId = state.callId ∨
    state.lastCallId < fields.nextCallId

theorem Switched.numbersMoved {state : SipRuntimeObservation} {event : BaresipNativeEvent}
    {fields : CallFields} (switched : Switched state event fields) : NumbersMoved state fields := by
  cases switched with
  | registering | registerOk | registerFail | unregistering | established =>
      exact ⟨UInt64.le_refl _, fun shown newest => newest shown, .inr (.inl rfl)⟩
  | incoming kind registered token free fresh | outgoing kind registered token free fresh =>
      exact ⟨UInt64.le_of_lt fresh, fun _ _ => rfl, .inr (.inr fresh)⟩
  | closed | transportLost =>
      exact ⟨UInt64.le_refl _, fun shown => absurd rfl shown, .inl rfl⟩

/-- Everything a call of the reducer does to the numbers: nothing, or what an accepted event does. -/
theorem reducerStep_cases (state : SipRuntimeObservation) (input : ReducerInput) :
    ((reducerStep state input).1 ≠ .applied ∧ (reducerStep state input).2 = state) ∨
      ∃ fields, Switched state input.event fields ∧ (reducerStep state input).2 = { state with
        sip := fields.next, callId := fields.nextCallId, lastCallId := fields.lastCallId } := by
  unfold reducerStep
  rcases applyBaresipEvent_cases state input.activeSession input.event with
    ⟨refusal, refused, same⟩ | ⟨-, -, fields, accepted, same⟩
  · rw [same]
    exact .inl ⟨refused, rfl⟩
  · rw [same]
    exact .inr ⟨fields, nextCallFields_ok accepted, rfl⟩

theorem reducerStep_linked (state : SipRuntimeObservation) (input : ReducerInput)
    (linked : CallLinked state) : CallLinked (reducerStep state input).2 := by
  rcases reducerStep_cases state input with ⟨-, same⟩ | ⟨fields, switched, same⟩
  · rw [same]
    exact linked
  · rw [same]
    exact ⟨switched.coherent linked.coherent,
      fun shown => switched.numbersMoved.newest shown linked.newest⟩

theorem reducerStep_rises (state : SipRuntimeObservation) (input : ReducerInput) :
    state.lastCallId ≤ (reducerStep state input).2.lastCallId := by
  rcases reducerStep_cases state input with ⟨-, same⟩ | ⟨fields, switched, same⟩
  · rw [same]
    exact UInt64.le_refl _
  · rw [same]
    exact switched.numbersMoved.rises

/-- A number that is no longer shown: its call was closed, or lost with the transport. -/
structure Ended (stage : ReducerStage) (call : UInt64) : Prop where
  nonzero : call ≠ 0
  shown : stage.before.callId = call
  gone : stage.after.callId ≠ call

/-- What is left of a call that has ended: its number is spent. -/
structure Spent (call : UInt64) (state : SipRuntimeObservation) : Prop where
  nonzero : call ≠ 0
  below : call ≤ state.lastCallId
  hidden : state.callId ≠ call

theorem Spent.step {call : UInt64} {state : SipRuntimeObservation} (spent : Spent call state)
    (input : ReducerInput) : Spent call (reducerStep state input).2 := by
  refine ⟨spent.nonzero, UInt64.le_trans spent.below (reducerStep_rises state input), ?_⟩
  rcases reducerStep_cases state input with ⟨-, same⟩ | ⟨fields, switched, same⟩
  · rw [same]
    exact spent.hidden
  · rw [same]
    rintro rfl
    rcases switched.numbersMoved.fresh with none_ | kept | above
    · exact spent.nonzero none_
    · exact spent.hidden kept.symm
    · exact absurd (UInt64.lt_of_lt_of_le above spent.below) (UInt64.lt_irrefl _)

/-- The step by which a call ends spends its number. -/
theorem Ended.spent {state : SipRuntimeObservation} (linked : CallLinked state)
    {input : ReducerInput} {call : UInt64} (ended : Ended (stageOf reducerStep state input) call) :
    Spent call (reducerStep state input).2 := by
  obtain ⟨nonzero, shown, gone⟩ := ended
  have here : state.callId = call := shown
  subst here
  refine ⟨nonzero, ?_, gone⟩
  rw [linked.newest nonzero]
  exact reducerStep_rises state input

/-- What holds of a session from its start on. -/
structure ReducerKept (session : UInt64) (inputs : List ReducerInput) : Prop where
  linked : CallLinked (finalState reducerStep (.opened .running .verifiedNativeApi session) inputs)
  /-- A refusal is atomic. -/
  refused : ∀ stage ∈ stages reducerStep (.opened .running .verifiedNativeApi session) inputs,
    stage.output ≠ .applied → stage.after = stage.before
  rises : ∀ stage ∈ stages reducerStep (.opened .running .verifiedNativeApi session) inputs,
    stage.before.lastCallId ≤ stage.after.lastCallId
  never : (stages reducerStep (.opened .running .verifiedNativeApi session) inputs).Pairwise
    fun earlier later => earlier.after.lastCallId ≤ later.after.lastCallId ∧
      ∀ call, Ended earlier call → later.after.callId ≠ call

theorem reducer_kept (session : UInt64) (inputs : List ReducerInput) :
    ReducerKept session inputs where
  linked := finalState_invariant reducerStep_linked (callLinked_opened session) inputs
  refused := stages_forall_of_step _ (fun _ _ => applyBaresipEvent_refused) _ inputs
  rises := stages_forall_of_step _ reducerStep_rises _ inputs
  never := by
    refine stages_pairwise CallLinked
      (fun earlier current => earlier.after.lastCallId ≤ current.lastCallId ∧
        ∀ call, Ended earlier call → Spent call current)
      _ reducerStep_linked ?_ ?_ ?_ (callLinked_opened session) inputs
    · intro state input linked
      exact ⟨UInt64.le_refl _, fun call ended => ended.spent linked⟩
    · rintro earlier state input - ⟨below, spent⟩
      exact ⟨UInt64.le_trans below (reducerStep_rises state input),
        fun call ended => (spent call ended).step input⟩
    · rintro earlier state input - ⟨below, spent⟩
      exact ⟨UInt64.le_trans below (reducerStep_rises state input),
        fun call ended => ((spent call ended).step input).hidden⟩

end AxeVoice.Sip
