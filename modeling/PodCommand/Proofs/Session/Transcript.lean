import PodCommand.Proofs.Session.History

namespace PodCommand

/-!
What a promise of open streams says of a whole call.

`Call.streamed` is what the open streams of a call have told, and nothing else.  A promise that
every look at the streams keeps holds of it in every run, as long as the streams are open, when they
have come to their end, and also when the call is cancelled between two looks.
-/

/-- What the open streams of a call have told. -/
def Call.streamed (call : Call) : List Event := call.events.filter Event.isStreaming

theorem Stage.filter_taken (request : Request) {streamed after : List Event}
    (own : ∀ event ∈ streamed, event.isStreaming = true)
    (late : ∀ event ∈ after, event.isStreaming = false) :
    ((Stage.taken streamed own).events request ++ after).filter Event.isStreaming = streamed := by
  have silent : after.filter Event.isStreaming = [] :=
    List.filter_eq_nil_iff.mpr fun event member => by simp [late event member]
  rw [List.filter_append, silent, List.append_nil]
  exact List.filter_eq_self.mpr own

/-- A promise holds of what the streams of a call have told, however far they have come; the call
may have been cancelled since. -/
inductive Streaming.Promise.Holds (promise : Promise) (phase : Phase) (told : List Event) : Prop
  | untaken (nothing : told = [])
  | pending {session : Streaming} (kept : promise.pending told session)
  | finished {output : Output} (ended : phase = .ended (.returned (.ok output)))
      (kept : promise.finished told output)
  | failed {failure : StreamFailure} (ended : phase = .ended (.returned (.error (.stream failure))))
      (kept : promise.failed told failure)

section

variable {order : Order} {remote : Remote} {promise : Streaming.Promise} {state : SessionState}
  {phase : Phase} {events : List Event}

theorem Stage.Fits.holds {stage : Stage} {request : Request}
    (fits : stage.Fits remote promise request phase) {after : List Event}
    (late : ∀ event ∈ after, event.isStreaming = false) (current : Phase) :
    promise.Holds current ((stage.events request ++ after).filter Event.isStreaming) := by
  cases fits with
  | streaming agreed kept =>
      rw [Stage.filter_taken request _ late]
      exact .pending kept
  | _ =>
      refine .untaken (List.filter_eq_nil_iff.mpr fun event member => ?_)
      rcases List.mem_append.mp member with early | last
      · simp only [Stage.events, List.mem_cons, List.not_mem_nil, or_false] at early
        rcases early with rfl | rfl | rfl | rfl | rfl | rfl <;> exact Bool.false_ne_true
      · simp [late event last]

theorem History.holds (history : History order remote promise state phase events) :
    promise.Holds phase (events.filter Event.isStreaming) := by
  cases history with
  | fresh | overflowed | rejected => exact .untaken rfl
  | @underWay request valid stage phase fits =>
      rw [← List.append_nil (stage.events request)]
      exact fits.holds (by simp) phase
  | @cancelled request valid stage phase fits reason wish =>
      refine fits.holds ?_ _
      cases stage <;> simp [Stage.cancellation, Event.isStreaming]
  | refused => exact .untaken rfl
  | completed valid agreed kept =>
      rw [Stage.filter_taken _ _ (by simp [Event.isStreaming])]
      exact .finished rfl kept
  | broken valid agreed kept =>
      rw [Stage.filter_taken _ _ (by simp [Event.isStreaming])]
      exact .failed rfl kept

theorem History.pending_streams {session : Streaming}
    (history : History order remote promise state (.streaming session) events) :
    promise.pending (events.filter Event.isStreaming) session := by
  cases history with
  | @underWay request valid _ _ fits =>
      cases fits with
      | @streaming _ streamed own agreed kept =>
          have all := Stage.filter_taken request own (List.forall_mem_nil _)
          rw [List.append_nil] at all
          rw [all]
          exact kept

theorem History.failed_streams {failure : StreamFailure}
    (history : History order remote promise state
      (.ended (.returned (.error (.stream failure)))) events) :
    promise.failed (events.filter Event.isStreaming) failure := by
  cases history with
  | underWay valid fits => cases fits
  | broken valid agreed kept =>
      rw [Stage.filter_taken _ _ (by simp [Event.isStreaming])]
      exact kept

end

namespace Call

variable {order : Order} {remote : Remote} {promise : Streaming.Promise}

theorem run_holds (sustained : promise.Sustained order.stdin remote) (glances : List Glance) :
    promise.Holds (order.run remote glances).phase (order.run remote glances).streamed :=
  (run_history sustained glances).2.holds

theorem run_pending (sustained : promise.Sustained order.stdin remote) {glances : List Glance}
    {session : Streaming} (streaming : (order.run remote glances).phase = .streaming session) :
    promise.pending (order.run remote glances).streamed session := by
  have history := (run_history sustained glances).2
  rw [streaming] at history
  exact history.pending_streams

theorem run_failed (sustained : promise.Sustained order.stdin remote) {glances : List Glance}
    {failure : StreamFailure}
    (ended : (order.run remote glances).phase =
      .ended (.returned (.error (.stream failure)))) :
    promise.failed (order.run remote glances).streamed failure := by
  have history := (run_history sustained glances).2
  rw [ended] at history
  exact history.failed_streams

end Call
end PodCommand
