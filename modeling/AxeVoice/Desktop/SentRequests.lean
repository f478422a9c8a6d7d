import AxeVoice.Desktop.Requests

/-!
# Where the requests come from

What the interface takes out of the queue was posted by a client: the worker of
the server read the post, and answered in its next step that the request was
created.
-/

namespace AxeVoice.Desktop

open Cti Foundation Native Sip

variable {width : WCharWidth} {ctype : WideCtype width} {history : List (DeskStage width)}
  {desktop : VoiceDesktop width} {last : DeskStage width}

/-- The worker has read the post of a client, and not yet answered it. -/
def Posted (history : List (DeskStage width)) (destination : WString width)
    (key : IdempotencyKey) : Prop :=
  ∃ before post during ready, history = before ++ post :: during ∧
    post.input = .worker (.post destination key) ∧ post.output = .server (.sampled ready) ∧
      ∀ stage ∈ during, ∀ posted, stage.input ≠ .worker posted

/-- A client has posted the destination of the request, and the worker's next step has answered
that the request was created. -/
def Sent (history : List (DeskStage width)) (request : CtiPendingRequest width) : Prop :=
  ∃ before create after key posted, history = before ++ create :: after ∧
    Posted before request.destination key ∧ create.input = .worker posted ∧
      create.output = .server (.submitted ⟨.created, request.id, .queued⟩)

theorem Posted.extend {destination : WString width} {key : IdempotencyKey}
    (posted : Posted history destination key) (other : ∀ posted, last.input ≠ .worker posted) :
    Posted (history ++ [last]) destination key := by
  obtain ⟨before, post, during, ready, rfl, input, output, quiet⟩ := posted
  exact ⟨before, post, during ++ [last], ready, by simp, input, output,
    forall_mem_concat quiet other⟩

theorem Sent.extend {request : CtiPendingRequest width} (sent : Sent history request)
    (last : DeskStage width) : Sent (history ++ [last]) request := by
  obtain ⟨before, create, after, key, posted, rfl, asked, input, output⟩ := sent
  exact ⟨before, create, after ++ [last], key, posted, by simp, asked, input, output⟩

theorem Sent.append {request : CtiPendingRequest width} (sent : Sent history request)
    (later : List (DeskStage width)) : Sent (history ++ later) request := by
  obtain ⟨before, create, after, key, posted, rfl, asked, input, output⟩ := sent
  exact ⟨before, create, after ++ later, key, posted, by simp, asked, input, output⟩

/-- What the worker has read was posted, and what the queue holds was sent. -/
structure Traced (history : List (DeskStage width)) (server : LocalCtiServer width) : Prop where
  posted : ∀ ready destination key, server.worker = .sampled ready destination key →
    Posted history destination key
  pending : ∀ request, server.requests.pending = some request → Sent history request
  active : ∀ request, server.requests.active = some request → Sent history request

/-- The queue issues nothing. -/
theorem Traced.unissued {server after : LocalCtiServer width} (traced : Traced history server)
    (posted : ∀ ready destination key, after.worker = .sampled ready destination key →
      Posted (history ++ [last]) destination key)
    {operation : CtiOperation width} {answer : CtiAnswer width}
    (operated : Operated server.requests operation answer after.requests)
    (unissued : answer.issued = none) : Traced (history ++ [last]) after := by
  refine ⟨posted, fun request pending => ?_, fun request active => ?_⟩
  · exact (traced.pending request (pending_of_operated operated unissued pending)).extend last
  · rcases active_of_operated operated active with before | taken
    · exact (traced.active request before).extend last
    · exact (traced.pending request taken).extend last

/-- Neither the queue nor the worker moves. -/
theorem Traced.rest {server after : LocalCtiServer width} (traced : Traced history server)
    (posted : ∀ ready destination key, after.worker = .sampled ready destination key →
      Posted (history ++ [last]) destination key)
    (same : after.requests = server.requests) : Traced (history ++ [last]) after := by
  refine ⟨posted, fun request pending => ?_, fun request active => ?_⟩
  · exact (traced.pending request (same ▸ pending)).extend last
  · exact (traced.active request (same ▸ active)).extend last

theorem guiStep_worker (server : LocalCtiServer width) (call : GuiCall) :
    (server.guiStep call).2.worker = server.worker := by
  unfold LocalCtiServer.guiStep
  split
  · cases call <;> rfl
  · rfl
  · rfl
  · split <;> rfl
  · split <;> rfl
  · rfl

/-- The interface issues no request. -/
theorem guiOperation_unissued {server : LocalCtiServer width} {call : GuiCall}
    {operation : CtiOperation width} (asked : server.guiOperation call = some operation)
    (queue : CtiRequestQueue width) : (queueStep queue operation).1.issued = none := by
  unfold LocalCtiServer.guiOperation at asked
  split at asked <;> cases asked <;> rfl

theorem Traced.gui (attended : Attended desktop) (traced : Traced history desktop.server) :
    Traced (history ++ [stageOf (deskStep ctype) desktop .gui])
      (deskStep ctype desktop .gui).2.server := by
  have worker : (deskStep ctype desktop .gui).2.server.worker = desktop.server.worker := by
    have moved : (deskStep ctype desktop .gui).2.server = _ := desktop.guiStep_server
    rw [moved]
    split
    · exact guiStep_worker ..
    · rfl
  have posted (ready : Bool) (destination : WString width) (key : IdempotencyKey)
      (sampled : (deskStep ctype desktop .gui).2.server.worker = .sampled ready destination key) :
      Posted (history ++ [stageOf (deskStep ctype) desktop .gui]) destination key := by
    refine (traced.posted ready destination key (worker ▸ sampled)).extend fun request same => ?_
    cases same
  rcases queue_step attended.sound ctype .gui with same | ⟨turn, operation, asked, works, operated⟩
  · exact traced.rest posted same
  · refine traced.unissued posted operated ?_
    obtain ⟨call, -, rfl⟩ := Option.map_eq_some_iff.mp asked
    exact guiOperation_unissued works _

theorem Traced.worker (attended : Attended desktop) (traced : Traced history desktop.server)
    (request : WorkerRequest width) :
    Traced (history ++ [stageOf (deskStep ctype) desktop (.worker request)])
      (deskStep ctype desktop (.worker request)).2.server := by
  have output : (stageOf (deskStep ctype) desktop (.worker request)).output =
      .server (desktop.server.workerStep request).1 := rfl
  change Traced _ (desktop.server.workerStep request).2
  unfold LocalCtiServer.workerStep at output ⊢
  cases worker : desktop.server.worker with
  | idle =>
      rw [worker] at output
      cases request with
      | post destination key =>
          refine traced.rest (fun ready other key' sampled => ?_) rfl
          cases sampled
          exact ⟨history, _, [], _, by simp, rfl, output, by simp⟩
      | cancel id =>
          refine traced.unissued (fun ready destination key sampled => ?_)
            (cancel_operated attended.sound.requests id) rfl
          cases sampled
  | sampled ready destination key =>
      rw [worker] at output
      have operated := submitIdempotent_operated desktop.server.requests destination key ready
      dsimp only at output ⊢
      generalize (desktop.server.requests.submitIdempotent destination key ready).1 = result
        at operated output
      generalize (desktop.server.requests.submitIdempotent destination key ready).2 = after
        at operated ⊢
      cases operated with
      | refused _ _ failed => exact traced.rest (fun _ _ _ sampled => by cases sampled) rfl
      | created _ _ free unknown =>
          refine ⟨(fun _ _ _ sampled => by cases sampled), fun request pending => ?_,
            fun request active => ?_⟩
          · simp only [CtiRequestQueue.create, appendEvent_pending] at pending
            cases pending
            exact ⟨history, _, [], key, _, by simp, traced.posted _ _ _ worker, rfl, output⟩
          · have none_ := (occupied_eq_false free).2.1
            simp only [CtiRequestQueue.create, appendEvent_active] at active
            cases none_.symm.trans active

/-- A step that leaves the server alone. -/
theorem Traced.apart (traced : Traced history desktop.server) {move : DeskMove width}
    (unasked : serverAsked desktop move = none) (other : ∀ request, move ≠ .worker request) :
    Traced (history ++ [stageOf (deskStep ctype) desktop move])
      (deskStep ctype desktop move).2.server := by
  have same : (deskStep ctype desktop move).2.server = desktop.server :=
    (serverPart ctype).rests unasked
  rw [same]
  exact traced.rest (fun ready destination key sampled =>
    (traced.posted ready destination key sampled).extend other) rfl

theorem Traced.step (attended : Attended desktop) (traced : Traced history desktop.server)
    (move : DeskMove width) :
    Traced (history ++ [stageOf (deskStep ctype) desktop move])
      (deskStep ctype desktop move).2.server := by
  cases move with
  | worker request => exact traced.worker attended request
  | gui => exact traced.gui attended
  | owner move => exact traced.apart rfl fun request same => by cases same
  | message message => exact traced.apart rfl fun request same => by cases same

/-- The request that `take()` returns is the active one of the queue. -/
theorem active_of_hands (attended : Attended desktop) {move : DeskMove width}
    {request : CtiPendingRequest width}
    (hands : Hands (stageOf (deskStep ctype) desktop move) request) :
    (deskStep ctype desktop move).2.server.requests.active = some request := by
  obtain ⟨turn, asked, shown⟩ := deskStep_server hands
  have moved : (deskStep ctype desktop move).2.server = (serverStep desktop.server turn).2 :=
    (serverPart ctype).moves asked
  rw [moved]
  cases turn with
  | worker posted => exact absurd shown (workerStep_untaken desktop.server posted _)
  | gui call => exact (guiStep_ended attended.sound shown).2 request rfl

/-- What was handed out was sent. -/
structure Delivered (history : List (DeskStage width)) (desktop : VoiceDesktop width) : Prop where
  attended : Attended desktop
  traced : Traced history desktop.server
  handed : ∀ stage ∈ history, ∀ request, Hands stage request → Sent history request

theorem Delivered.step (delivered : Delivered history desktop) (move : DeskMove width) :
    Delivered (history ++ [stageOf (deskStep ctype) desktop move])
      (deskStep ctype desktop move).2 := by
  have traced := @Traced.step _ ctype _ _ delivered.attended delivered.traced move
  refine ⟨delivered.attended.step ctype move, traced, fun stage member request hands => ?_⟩
  rcases List.mem_append.mp member with before | now
  · exact (delivered.handed stage before request hands).extend _
  · rw [List.mem_singleton.mp now] at hands
    exact traced.active request (active_of_hands delivered.attended hands)

theorem delivered_run (ctype : WideCtype width) (link : Option (WString width))
    (moves : List (DeskMove width)) :
    Delivered (deskRun ctype link moves) (deskEnd ctype link moves) := by
  refine history_invariant Delivered (fun _ => True)
    (fun _ _ move delivered _ => delivered.step move) [] ?_ fun _ _ => trivial
  refine ⟨attended_initial ctype link, ⟨?_, ?_, ?_⟩, fun _ member => by cases member⟩
  · exact fun _ _ _ sampled => by cases sampled
  · exact fun _ pending => by cases pending
  · exact fun _ active => by cases active

/-- The request that the interface serves was sent. -/
theorem sent_of_serves {link : Option (WString width)} {moves : List (DeskMove width)}
    {request : CtiPendingRequest width} (serves : Serves (deskRun ctype link moves) request) :
    Sent (deskRun ctype link moves) request := by
  obtain ⟨before, hand, during, split, hands, -⟩ := serves
  refine (delivered_run ctype link moves).handed hand ?_ request hands
  rw [split]
  exact List.mem_append_right _ List.mem_cons_self

end AxeVoice.Desktop
