import PodCommand.Proofs.Session.History

namespace PodCommand

/-!
The life of a session over a whole call.

The transitions that a call tells of form a path that `SessionState.canAdvanceTo` allows, from
`idle` to the state that the call is in; the server is asked for a session at most once, with the
request of the order; and the way a call ends is the end of its path.
-/

/-- Transitions that lead from one state to another, each allowed and each from where the one before
it has led. -/
inductive SessionState.Path :
    SessionState → List (SessionState × SessionState) → SessionState → Prop
  | here (state : SessionState) : Path state [] state
  | move {source next target : SessionState} {rest : List (SessionState × SessionState)}
      (allowed : source.canAdvanceTo next = true) (later : Path next rest target) :
      Path source ((source, next) :: rest) target

theorem SessionState.Path.append {source middle target : SessionState}
    {first second : List (SessionState × SessionState)} (left : Path source first middle)
    (right : Path middle second target) : Path source (first ++ second) target := by
  induction left with
  | here => exact right
  | move allowed later ih => exact .move allowed (ih right)

/-- Who walks along a path makes every move of it. -/
theorem SessionState.Path.walk {source target : SessionState}
    {moves : List (SessionState × SessionState)} (path : Path source moves target) :
    source.walk (moves.map (·.2)) = moves.map fun move => (true, move.2) := by
  induction path with
  | here => rfl
  | move allowed later ih =>
      simp only [List.map_cons, SessionState.walk, allowed, if_true]
      rw [ih]

/-- Whatever states are tried, the moves that are made form a path, and it ends where the walk
does. -/
theorem SessionState.exists_path_of_walk (start : SessionState) (states : List SessionState) :
    ∃ moves target, Path start moves target ∧
      moves.map (·.2) = ((start.walk states).filter (·.1)).map (·.2) ∧
      ((start.walk states).getLast?.map (·.2)).getD start = target := by
  induction states generalizing start with
  | nil => exact ⟨[], start, .here start, rfl, rfl⟩
  | cons next rest ih =>
      -- The walk goes on from where this move leads, or from where it started.
      have last : ∀ head : Bool × SessionState,
          (((head :: head.2.walk rest).getLast?).map (·.2)).getD start =
            ((head.2.walk rest).getLast?.map (·.2)).getD head.2 := by
        intro head
        rw [List.getLast?_cons]
        cases (head.2.walk rest).getLast? <;> rfl
      cases allowed : start.canAdvanceTo next with
      | true =>
          rcases ih next with ⟨moves, target, path, made, ends⟩
          refine ⟨(start, next) :: moves, target, .move allowed path, ?_, ?_⟩
          · simp only [SessionState.walk, allowed, if_true, List.map_cons, List.filter_cons, made]
          · simp only [SessionState.walk, allowed, if_true]
            rw [last (true, next), ends]
      | false =>
          rcases ih start with ⟨moves, target, path, made, ends⟩
          refine ⟨moves, target, path, ?_, ?_⟩
          · simp only [SessionState.walk, allowed, Bool.false_eq_true, if_false, List.filter_cons,
              made]
          · simp only [SessionState.walk, allowed, Bool.false_eq_true, if_false]
            rw [last (false, start), ends]

namespace Event

/-- The transition that an event tells of. -/
def transition? : Event → Option (SessionState × SessionState)
  | advanced source next => some (source, next)
  | _ => none

/-- The request with which an event tells the server to be asked for a session. -/
def upgrade? : Event → Option String
  | upgradeStarted url => some url
  | _ => none

theorem transition?_of_isStreaming {event : Event} (streaming : event.isStreaming = true) :
    event.transition? = none := by
  cases event <;> first | rfl | cases streaming

theorem upgrade?_of_isStreaming {event : Event} (streaming : event.isStreaming = true) :
    event.upgrade? = none := by
  cases event <;> first | rfl | cases streaming

end Event

namespace Call

/-- The transitions of a call, in order. -/
def transitions (call : Call) : List (SessionState × SessionState) :=
  call.events.filterMap Event.transition?

/-- The requests with which a call has asked the server for a session, in order. -/
def upgrades (call : Call) : List String :=
  call.events.filterMap Event.upgrade?

end Call

namespace Stage

/-- The transitions up to a stage. -/
def moves : Stage → List (SessionState × SessionState)
  | requested | asked => [(.idle, .requestBuilt)]
  | opened => [(.idle, .requestBuilt), (.requestBuilt, .upgraded)]
  | entered | taken _ _ =>
    [(.idle, .requestBuilt), (.requestBuilt, .upgraded), (.upgraded, .streaming)]

theorem path_moves (stage : Stage) : SessionState.Path .idle stage.moves stage.state := by
  cases stage with
  | requested | asked => exact .move rfl (.here _)
  | opened => exact .move rfl (.move rfl (.here _))
  | entered | taken => exact .move rfl (.move rfl (.move rfl (.here _)))

theorem filterMap_transition? (stage : Stage) (request : Request) :
    (stage.events request).filterMap Event.transition? = stage.moves := by
  cases stage with
  | taken streamed own =>
      have none : streamed.filterMap Event.transition? = [] :=
        List.filterMap_eq_nil_iff.mpr fun event member =>
          Event.transition?_of_isStreaming (own event member)
      simp only [events, List.filterMap_append, none, List.append_nil]
      rfl
  | _ => rfl

theorem filterMap_upgrade? (stage : Stage) (request : Request) :
    (stage.events request).filterMap Event.upgrade? = [] ∨
      (stage.events request).filterMap Event.upgrade? = [request.url] := by
  cases stage with
  | requested => exact Or.inl rfl
  | taken streamed own =>
      have none : streamed.filterMap Event.upgrade? = [] :=
        List.filterMap_eq_nil_iff.mpr fun event member =>
          Event.upgrade?_of_isStreaming (own event member)
      simp only [events, List.filterMap_append, none, List.append_nil]
      exact Or.inr rfl
  | _ => exact Or.inr rfl

/-- A call that is cancelled at a stage moves from the state of that stage to failure. -/
theorem filterMap_cancellation (stage : Stage) (reason : CancelReason) :
    (stage.cancellation reason).filterMap Event.transition? = [(stage.state, .failed)] := by
  cases stage <;> rfl

theorem upgrade?_cancellation (stage : Stage) (reason : CancelReason) :
    (stage.cancellation reason).filterMap Event.upgrade? = [] := by
  cases stage <;> rfl

theorem canAdvanceTo_failed (stage : Stage) : stage.state.canAdvanceTo .failed = true := by
  cases stage <;> rfl

end Stage

namespace History

variable {order : Order} {remote : Remote} {promise : Streaming.Promise} {state : SessionState}
  {phase : Phase} {events : List Event}

/-- The path lemma: whatever its phase, the transitions of a call lead from `idle` to its state. -/
theorem path (history : History order remote promise state phase events) :
    SessionState.Path .idle (events.filterMap Event.transition?) state := by
  have failed : ∀ (stage : Stage) (reason : CancelReason) (request : Request),
      SessionState.Path .idle
        ((stage.events request ++ stage.cancellation reason).filterMap Event.transition?)
        .failed := by
    intro stage reason request
    rw [List.filterMap_append, stage.filterMap_transition?, stage.filterMap_cancellation]
    exact stage.path_moves.append (.move stage.canAdvanceTo_failed (.here _))
  cases history with
  | fresh | overflowed | rejected => exact .here _
  | @underWay request valid stage phase fits =>
      rw [stage.filterMap_transition?]
      exact stage.path_moves
  | @cancelled request valid stage phase fits reason wish => exact failed stage reason request
  | refused valid raised => exact .move rfl (.move rfl (.here _))
  | @completed request valid streamed own output agreed kept =>
      rw [List.filterMap_append, Stage.filterMap_transition?]
      exact (Stage.path_moves (.taken streamed own)).append (.move rfl (.here _))
  | @broken request valid streamed own failure agreed kept =>
      rw [List.filterMap_append, Stage.filterMap_transition?]
      exact (Stage.path_moves (.taken streamed own)).append (.move rfl (.here _))

/-- The server is not asked at all, or once, with the request of the order. -/
theorem upgrades (history : History order remote promise state phase events) :
    events.filterMap Event.upgrade? = [] ∨
      ∃ request, order.request = .ok request ∧
        events.filterMap Event.upgrade? = [request.url] := by
  have once : ∀ (stage : Stage) {request : Request} (more : List Event),
      order.request = .ok request → more.filterMap Event.upgrade? = [] →
      (stage.events request ++ more).filterMap Event.upgrade? = [] ∨
        ∃ sent, order.request = .ok sent ∧
          (stage.events request ++ more).filterMap Event.upgrade? = [sent.url] := by
    intro stage request more valid nothing
    rw [List.filterMap_append, nothing, List.append_nil]
    exact (stage.filterMap_upgrade? request).imp_right fun asked => ⟨request, valid, asked⟩
  cases history with
  | fresh | overflowed | rejected => exact Or.inl rfl
  | @underWay request valid stage phase fits =>
      have asked := once stage [] valid rfl
      rwa [List.append_nil] at asked
  | @cancelled request valid stage phase fits reason wish =>
      exact once stage _ valid (stage.upgrade?_cancellation reason)
  | refused valid raised => exact once .asked _ valid rfl
  | @completed request valid streamed own output agreed kept =>
      exact once (.taken streamed own) _ valid rfl
  | @broken request valid streamed own failure agreed kept =>
      exact once (.taken streamed own) _ valid rfl

end History

/-- What the way a call went says about its result, and the other way round. -/
structure Call.Concludes (order : Order) (remote : Remote) (state : SessionState)
    (transitions : List (SessionState × SessionState)) (result : Except ExecError Output) :
    Prop where
  idle : state = .idle ↔ ∃ error, result = .error (.rejected error)
  completed : state = .completed ↔ ∃ output, result = .ok output
  failed : state = .failed ↔
    (∃ url cause, result = .error (.transport url cause)) ∨
      (∃ failure, result = .error (.stream failure)) ∨
      ∃ reason source, result = .error (.cancelled reason source)
  /-- The request is refused for what is wrong with it. -/
  rejected : ∀ error, result = .error (.rejected error) → order.request = .error error
  /-- The server fails a request that was ready, with a failure of its own. -/
  transport : ∀ url cause, result = .error (.transport url cause) →
    transitions.getLast? = some (.requestBuilt, .failed) ∧
      ∃ request failure, order.request = .ok request ∧ url = request.url ∧
        remote.upgrade.ComesTo (some failure) ∧ cause = failure.message
  stream : ∀ failure, result = .error (.stream failure) →
    transitions.getLast? = some (.streaming, .failed)
  /-- The state that is told is the one before the failure. -/
  cancelled : ∀ reason source, result = .error (.cancelled reason source) →
    transitions.getLast? = some (source, .failed)

/-- What a history comes to when a call has returned. -/
theorem History.concludes {order : Order} {remote : Remote} {promise : Streaming.Promise}
    {state : SessionState} {events : List Event} {result : Except ExecError Output}
    (history : History order remote promise state (.ended (.returned result)) events) :
    Call.Concludes order remote state (events.filterMap Event.transition?) result := by
  have last : ∀ (stage : Stage) (request : Request) (more : List Event),
      more.filterMap Event.transition? = [(stage.state, .failed)] →
      ((stage.events request ++ more).filterMap Event.transition?).getLast? =
        some (stage.state, .failed) := by
    intro stage request more moved
    rw [List.filterMap_append, moved, List.getLast?_concat]
  cases history with
  | rejected refused => constructor <;> simp [refused]
  | underWay valid fits => cases fits
  | @cancelled request valid stage phase fits reason wish =>
      have moved := last stage request _ (stage.filterMap_cancellation reason)
      generalize List.filterMap Event.transition? _ = transitions at moved ⊢
      constructor <;> simp [moved]
  | @refused request valid failure raised =>
      have moved := last .asked request
        [.advanced .requestBuilt .failed, .upgradeFailed request.url failure.message] rfl
      generalize List.filterMap Event.transition? _ = transitions at moved ⊢
      constructor <;> simp [moved, Stage.state]
      exact ⟨request, valid, rfl, failure, raised, rfl⟩
  | completed valid agreed kept => constructor <;> simp
  | @broken request valid streamed own failure agreed kept =>
      have moved := last (.taken streamed own) request
        [.advanced .streaming .failed, .failed (.stream failure), .aborted, .released] rfl
      generalize List.filterMap Event.transition? _ = transitions at moved ⊢
      constructor <;> simp [moved, Stage.state]

/-- A call that has begun has not been given up as endless. -/
theorem History.not_endless {order : Order} {remote : Remote} {promise : Streaming.Promise}
    {state : SessionState} {events : List Event} :
    ¬ History order remote promise state (.ended .endless) events := by
  intro history
  cases history with
  | underWay valid fits => cases fits

/-- The states that a run tells of can be walked through from the first to the last. -/
theorem Call.walk_transitions (order : Order) (remote : Remote) (glances : List Glance) :
    SessionState.idle.walk ((order.run remote glances).transitions.map (·.2)) =
      (order.run remote glances).transitions.map fun move => (true, move.2) :=
  (Call.run_history (Streaming.onlyStreams_sustained order.stdin remote) glances).2.path.walk

/-- For every order, every remote side and every run: the session only moves as it may, from `idle`
on; the server is asked at most once, with the request of the order; a call that returns concludes
its path; and there is no other way to end for an order whose deadline the clock can count to. -/
theorem lifecycle (order : Order) (remote : Remote) (glances : List Glance) :
    SessionState.Path .idle (order.run remote glances).transitions
        (order.run remote glances).state ∧
      ((order.run remote glances).upgrades = [] ∨
        ∃ request, order.request = .ok request ∧
          (order.run remote glances).upgrades = [request.url]) ∧
      (∀ result, (order.run remote glances).ending? = some (.returned result) →
        Call.Concludes order remote (order.run remote glances).state
          (order.run remote glances).transitions result) ∧
      ∀ ending, (order.run remote glances).ending? = some ending →
        (∃ result, ending = .returned result) ∨
          ∃ glance rest, glances = glance :: rest ∧ ¬ order.InTime glance.moment.now := by
  have history := (Call.run_history (Streaming.onlyStreams_sustained order.stdin remote) glances).2
  refine ⟨history.path, history.upgrades, ?_, ?_⟩
  · intro result returned
    rw [Call.phase_of_ending? returned] at history
    exact history.concludes
  · intro ending ended
    cases ending with
    | returned result => exact Or.inl ⟨result, rfl⟩
    | endless =>
        rw [Call.phase_of_ending? ended] at history
        exact absurd history History.not_endless
    | clockOverflow =>
        refine Or.inr ?_
        cases glances with
        | nil => cases ended
        | cons glance rest =>
            refine ⟨glance, rest, rfl, fun inTime => ?_⟩
            exact (Call.run_leads inTime remote rest).inTime (Call.phase_of_ending? ended)

/-- A prompt server is cut off by the deadline as the streams are entered; the path ends there. -/
theorem listing_cut_off :
    (Order.listing.run .prompt (List.replicate 4 (.calm 0) ++ [.calm 5000000000])).ending? =
        some (.returned (.error (.cancelled (.deadline (.ofSeconds 5)) .streaming))) ∧
      (Order.listing.run .prompt (List.replicate 4 (.calm 0) ++ [.calm 5000000000])).state =
        .failed ∧
      (Order.listing.run .prompt
        (List.replicate 4 (.calm 0) ++ [.calm 5000000000])).transitions.getLast? =
        some (.streaming, .failed) := by
  have ended :
      (Order.listing.run .prompt (List.replicate 4 (.calm 0) ++ [.calm 5000000000])).ending? =
        some (.returned (.error (.cancelled (.deadline (.ofSeconds 5)) .streaming))) := rfl
  rcases lifecycle .listing .prompt (List.replicate 4 (.calm 0) ++ [.calm 5000000000]) with
    ⟨_, _, concludes, _⟩
  have conclusion := concludes _ ended
  exact ⟨ended, conclusion.failed.mpr (Or.inr (Or.inr ⟨_, _, rfl⟩)),
    conclusion.cancelled _ _ rfl⟩

end PodCommand
