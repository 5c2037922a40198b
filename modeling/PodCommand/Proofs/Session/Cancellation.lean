import PodCommand.Proofs.Session.History
import PodCommand.Proofs.Session.Interruption

namespace PodCommand

/-!
When a call is cancelled, and by whom.

A call looks out for an interruption at every step but its first, and `interruptedBy` says for each
phase what it looks at.  `cancelled_iff` is the exactness of one step: it ends a call as cancelled
if, and only if, something interrupts the call, and then whatever the server would have done is not
looked at.  The deadline of a run is fixed by its first glance, so what one step says of the
deadline of the call is said of the timeout of the order.
-/

namespace Call

/-- What interrupts a call at a glance.  The deadline counts only while the call waits for the
server. -/
def interruptedBy (glance : Glance) (call : Call) : Option CancelReason :=
  match call.phase with
  | .fresh | .ended _ => none
  | .built _ | .opened _ => if glance.cancelled then some .caller else none
  | .asking _ | .upgrading _ _ | .entering _ | .streaming _ =>
    call.interruption? glance.moment ⟨glance.cancelled, []⟩

/-- Whether a call waits for the server, so that the caller and the deadline race with it. -/
def races (call : Call) : Bool :=
  match call.phase with
  | .asking _ | .upgrading _ _ | .entering _ | .streaming _ => true
  | _ => false

theorem interruptedBy_of_races {call : Call} (racing : call.races = true) (glance : Glance) :
    call.interruptedBy glance = call.interruption? glance.moment ⟨glance.cancelled, []⟩ := by
  unfold races at racing
  unfold interruptedBy
  cases phase : call.phase with
  | asking | upgrading | entering | streaming => rfl
  | _ =>
      rw [phase] at racing
      cases racing

theorem going_of_races {call : Call} (racing : call.races = true) : call.ending? = none := by
  unfold races at racing
  unfold ending?
  cases phase : call.phase with
  | ended ending =>
      rw [phase] at racing
      cases racing
  | _ => rfl

theorem reason_of_interruptedBy {glance : Glance} {call : Call} {reason : CancelReason}
    (interrupted : call.interruptedBy glance = some reason) :
    (reason = .caller ∧ glance.cancelled = true) ∨
      ∃ deadline, call.deadline = some deadline ∧ deadline.instant ≤ glance.moment.now ∧
        reason = .deadline deadline.timeout := by
  unfold interruptedBy at interrupted
  split at interrupted
  · cases interrupted
  · cases interrupted
  · split at interrupted
    · rename_i cancelled
      exact Or.inl ⟨(Option.some.inj interrupted).symm, cancelled⟩
    · cases interrupted
  · split at interrupted
    · rename_i cancelled
      exact Or.inl ⟨(Option.some.inj interrupted).symm, cancelled⟩
    · cases interrupted
  · exact reason_of_interruption interrupted
  · exact reason_of_interruption interrupted
  · exact reason_of_interruption interrupted
  · exact reason_of_interruption interrupted

/-! ## One step -/

/-- A step that opens a session or fails to do so does not cancel the call. -/
theorem awaitUpgrade_not_cancelled {moment : Moment} {shared : Shared} {call : Call}
    {request : Request} {remote : Remote} {reason : CancelReason} {state : SessionState} :
    (awaitUpgrade moment shared call request remote).2.ending? ≠
      some (.returned (.error (.cancelled reason state))) := by
  unfold awaitUpgrade
  dsimp only
  split <;> simp [ending?, enter, finish]

/-- A look at the streams does not cancel the call. -/
theorem stream_not_cancelled {moment : Moment} {shared : Shared} {call : Call}
    {session : Streaming} {reason : CancelReason} {state : SessionState} :
    (stream moment shared call session).2.ending? ≠
      some (.returned (.error (.cancelled reason state))) := by
  unfold stream
  dsimp only
  split <;> simp [ending?, enter, complete, breakStreams, finish, release, record]

theorem start_not_cancelled {moment : Moment} {call : Call} {reason : CancelReason}
    {state : SessionState} :
    (start moment call).ending? ≠ some (.returned (.error (.cancelled reason state))) := by
  have building : ∀ call : Call,
      call.build.ending? ≠ some (.returned (.error (.cancelled reason state))) := by
    intro call
    unfold build
    split <;> simp [ending?, enter, finish]
  unfold start
  split
  · exact building call
  · split
    · simp [ending?, enter]
    · exact building _

theorem ending?_cancelEarly (call : Call) (reason : CancelReason) :
    (call.cancelEarly reason).ending? =
      some (.returned (.error (.cancelled reason call.state))) := rfl

theorem ending?_cancelStreams (call : Call) (reason : CancelReason) :
    (call.cancelStreams reason).ending? =
      some (.returned (.error (.cancelled reason call.state))) := rfl

/-- Something that is looked at only if nothing interrupts the call, and does not cancel it itself,
leaves it to the interruption whether the call is cancelled. -/
theorem cancelled_iff_of_race (interruption : Option CancelReason) (shared later : Shared)
    {call other : Call} {cancel : CancelReason → Call} {reason : CancelReason}
    {state : SessionState}
    (told : ∀ given, (cancel given).ending? =
      some (.returned (.error (.cancelled given call.state))))
    (different : other.ending? ≠ some (.returned (.error (.cancelled reason state)))) :
    (match interruption with
      | some given => (shared, cancel given)
      | none => (later, other)).2.ending? = some (.returned (.error (.cancelled reason state))) ↔
      interruption = some reason ∧ state = call.state := by
  cases interruption with
  | none => exact ⟨fun same => absurd same different, fun impossible => by cases impossible.1⟩
  | some given =>
      dsimp only
      rw [told given]
      constructor
      · intro same
        cases same
        exact ⟨rfl, rfl⟩
      · rintro ⟨same, rfl⟩
        cases same
        rfl

/-- A step cancels a call that goes on if, and only if, something interrupts it; the state that is
told is the one that the call is in. -/
theorem cancelled_iff {call : Call} (going : call.ending? = none) (remote : Remote)
    (glance : Glance) (reason : CancelReason) (state : SessionState) :
    (call.next remote glance).ending? = some (.returned (.error (.cancelled reason state))) ↔
      call.interruptedBy glance = some reason ∧ state = call.state := by
  unfold next step interruptedBy
  cases phase : call.phase with
  | fresh =>
      exact ⟨fun same => absurd same start_not_cancelled, fun impossible => by cases impossible.1⟩
  | built request =>
      have other : (call.enter (.asking request)).ending? ≠
          some (.returned (.error (.cancelled reason state))) := (Option.some_ne_none _).symm
      cases glance.cancelled with
      | true =>
          exact cancelled_iff_of_race (some .caller) ⟨true, [remote]⟩ ⟨true, [remote]⟩
            (ending?_cancelEarly call) other
      | false =>
          exact cancelled_iff_of_race none ⟨false, [remote]⟩ ⟨false, [remote]⟩
            (ending?_cancelEarly call) other
  | asking request =>
      exact cancelled_iff_of_race _ _ _ (ending?_cancelEarly call) awaitUpgrade_not_cancelled
  | upgrading request current =>
      exact cancelled_iff_of_race _ _ _ (ending?_cancelEarly call) awaitUpgrade_not_cancelled
  | opened current =>
      have other : ((call.advance .streaming).enter (.entering current)).ending? ≠
          some (.returned (.error (.cancelled reason state))) := (Option.some_ne_none _).symm
      have told : ∀ given, (call.cancelEarly given).release.ending? =
          some (.returned (.error (.cancelled given call.state))) := ending?_cancelEarly call
      cases glance.cancelled with
      | true =>
          exact cancelled_iff_of_race (some .caller) ⟨true, [remote]⟩ ⟨true, [remote]⟩ told other
      | false =>
          exact cancelled_iff_of_race none ⟨false, [remote]⟩ ⟨false, [remote]⟩ told other
  | entering current =>
      exact cancelled_iff_of_race _ _ _ (ending?_cancelStreams call) stream_not_cancelled
  | streaming session =>
      exact cancelled_iff_of_race _ _ _ (ending?_cancelStreams call) stream_not_cancelled
  | ended ending =>
      rw [ending?, phase] at going
      cases going

end Call

/-! ## Whole runs -/

namespace Event

/-- Whether an event takes the streams of a session or is one of theirs. -/
def touchesStreams : Event → Bool
  | inputTaken | outputTaken | errorsTaken => true
  | event => event.isStreaming

end Event

/-- Before the streams of a session are entered, none of them is touched. -/
theorem Stage.untouched {stage : Stage}
    (early : stage.state = .requestBuilt ∨ stage.state = .upgraded) (request : Request)
    (reason : CancelReason) :
    ∀ event ∈ stage.events request ++ stage.cancellation reason, event.touchesStreams = false := by
  cases stage with
  | entered | taken => simp [Stage.state] at early
  | _ => simp [Stage.events, Stage.cancellation, Event.touchesStreams, Event.isStreaming]

/-- How the runs of an order are cancelled that begin with a glance. -/
structure Order.CancelsExactly (order : Order) (remote : Remote) (first : Glance)
    (rest : List Glance) : Prop where
  /-- What is wrong with a request is told whatever the caller wishes. -/
  refused : ∀ error, order.request = .error error →
    (order.run remote (first :: rest)).ending? = some (.returned (.error (.rejected error)))
  /-- A caller who has given up by the time the request is ready is heeded before the server is
  asked. -/
  heeded : ∀ request second later, order.request = .ok request → rest = second :: later →
    second.cancelled = true →
    (order.run remote (first :: rest)).ending? =
        some (.returned (.error (.cancelled .caller .requestBuilt))) ∧
      ∀ url, .upgradeStarted url ∉ (order.run remote (first :: rest)).events
  /-- The caller and the deadline go before everything that the server has ready. -/
  wins : ∀ before glance later, rest = before ++ glance :: later →
    (order.run remote (first :: before)).races = true →
    glance.cancelled = true ∨ order.Expired first glance →
    ∃ reason, (order.run remote (first :: rest)).ending? =
      some (.returned (.error (.cancelled reason (order.run remote (first :: before)).state)))
  /-- Of the caller and the deadline, either may go first. -/
  tie : ∀ before glance later deadline, rest = before ++ glance :: later →
    (order.run remote (first :: before)).races = true → glance.cancelled = true →
    order.deadlineFrom first.moment.now = some deadline → deadline.instant ≤ glance.moment.now →
    (order.run remote (first :: rest)).ending? =
      some (.returned (.error (.cancelled
        (if glance.moment.choices.timerFirst then .deadline deadline.timeout else .caller)
        (order.run remote (first :: before)).state)))
  /-- There is no cancellation without its cause, at the glance that ends the call. -/
  caused : ∀ reason state,
    (order.run remote (first :: rest)).ending? =
      some (.returned (.error (.cancelled reason state))) →
    ∃ before glance later, rest = before ++ glance :: later ∧
      (order.run remote (first :: before)).ending? = none ∧
      state = (order.run remote (first :: before)).state ∧
      (reason = .caller → glance.cancelled = true) ∧
      ∀ timeout, reason = .deadline timeout →
        order.timeout = some timeout ∧ order.Expired first glance
  /-- A call that is cancelled before it enters the streams has touched none of them. -/
  untouched : ∀ reason state,
    (order.run remote (first :: rest)).ending? =
      some (.returned (.error (.cancelled reason state))) →
    state = .requestBuilt ∨ state = .upgraded →
    ∀ event ∈ (order.run remote (first :: rest)).events, event.touchesStreams = false
  /-- No deadline is looked at between the answer of the server and the streams. -/
  upgraded : ∀ reason,
    (order.run remote (first :: rest)).ending? =
      some (.returned (.error (.cancelled reason .upgraded))) → reason = .caller

/-- The history of a cancelled call. -/
theorem History.of_cancelled {order : Order} {remote : Remote} {promise : Streaming.Promise}
    {current : SessionState} {events : List Event} {reason : CancelReason} {state : SessionState}
    (history : History order remote promise current
      (.ended (.returned (.error (.cancelled reason state)))) events) :
    ∃ request stage, events = Stage.events request stage ++ stage.cancellation reason ∧
      state = stage.state ∧ (state = .upgraded → reason = .caller) := by
  cases history with
  | underWay valid fits => cases fits
  | @cancelled request valid stage phase fits reason wish =>
      exact ⟨request, stage, rfl, rfl, wish⟩

namespace Call

variable {order : Order} {remote : Remote} {first : Glance}

/-- A racing call that is interrupted ends there, in the state that it is in. -/
theorem ending?_of_races (before : List Glance) (glance : Glance) (later : List Glance)
    (racing : (order.run remote (first :: before)).races = true) {reason : CancelReason}
    (interrupted : (order.run remote (first :: before)).interruption? glance.moment
      ⟨glance.cancelled, []⟩ = some reason) :
    (order.run remote (first :: (before ++ glance :: later))).ending? =
      some (.returned (.error (.cancelled reason (order.run remote (first :: before)).state))) := by
  rw [← interruptedBy_of_races racing] at interrupted
  have last :=
    (cancelled_iff (going_of_races racing) remote glance reason _).mpr ⟨interrupted, rfl⟩
  rw [← List.cons_append, Order.run_of_last last]
  exact last

end Call

/-- Runs that begin in time are cancelled exactly when the caller or the deadline says so, and say
why and where. -/
theorem cancels_exactly {order : Order} {first : Glance} (inTime : order.InTime first.moment.now)
    (remote : Remote) (rest : List Glance) : order.CancelsExactly remote first rest where
  refused := by
    intro error refused
    have stopped := Call.run_of_refused inTime remote refused
    have whole : order.run remote (first :: rest) = (order.run remote [first]).after remote rest :=
      rfl
    rw [whole, Call.after_of_ended stopped]
    exact stopped
  heeded := by
    intro request second later valid split cancelled
    subst split
    have begun := Call.run_of_valid inTime remote valid
    have last : (order.run remote [first]).next remote second =
        (order.run remote [first]).cancelEarly .caller := by
      rw [begun]
      simp only [Call.next, Call.step, cancelled, if_true]
    have ended : ((order.run remote [first]).next remote second).ending? =
        some (.returned (.error (.cancelled .caller .requestBuilt))) := by
      rw [last, begun]
      rfl
    have whole := Order.run_of_last ended later
    rw [List.singleton_append] at whole
    rw [whole]
    have events : ((order.run remote [first]).next remote second).events =
        [.advanced .idle .requestBuilt, .requestReady request.url,
          .advanced .requestBuilt .failed] := by
      rw [last, begun]
      rfl
    refine ⟨ended, fun url member => ?_⟩
    rw [events] at member
    simp at member
  wins := by
    intro before glance later split racing interrupts
    subst split
    have deadline := (Call.run_leads inTime remote before).deadline
    have interrupted : ((order.run remote (first :: before)).interruption? glance.moment
        ⟨glance.cancelled, []⟩).isSome = true := by
      rcases interrupts with cancelled | ⟨limit, fixed, expired⟩
      · exact Call.interruption_of_cancelled cancelled _ _
      · exact Call.interruption_of_expired (deadline.trans fixed) expired _
    rcases Option.isSome_iff_exists.mp interrupted with ⟨reason, given⟩
    exact ⟨reason, Call.ending?_of_races before glance later racing given⟩
  tie := by
    intro before glance later limit split racing cancelled fixed expired
    subst split
    have deadline := (Call.run_leads inTime remote before).deadline
    exact Call.ending?_of_races before glance later racing
      (Call.interruption_of_both cancelled (deadline.trans fixed) expired)
  caused := by
    intro reason state ended
    rcases Order.exists_last_step ended with ⟨before, glance, later, split, going, last⟩
    have told : ((order.run remote before).next remote glance).ending? =
        some (.returned (.error (.cancelled reason state))) := by
      rw [last]
      exact ended
    rcases (Call.cancelled_iff going remote glance reason state).mp told with ⟨interrupted, same⟩
    cases before with
    -- Nothing interrupts the first step, so the glance that cancels is one of the rest.
    | nil => cases interrupted
    | cons start before =>
        rw [List.cons_append, List.cons.injEq] at split
        rcases split with ⟨rfl, split⟩
        refine ⟨before, glance, later, split, going, same, ?_, ?_⟩
        · rintro rfl
          rcases Call.reason_of_interruptedBy interrupted with
            ⟨_, cancelled⟩ | ⟨_, _, _, impossible⟩
          · exact cancelled
          · cases impossible
        · rintro timeout rfl
          rcases Call.reason_of_interruptedBy interrupted with
            ⟨impossible, _⟩ | ⟨limit, fixed, expired, same⟩
          · cases impossible
          · have deadline := (Call.run_leads inTime remote before).deadline
            have first := deadline.symm.trans fixed
            rw [CancelReason.deadline.injEq] at same
            rw [same]
            exact ⟨Order.timeout_of_deadlineFrom first, limit, first, expired⟩
  untouched := by
    intro reason state ended early
    have history :=
      (Call.run_history (Streaming.onlyStreams_sustained order.stdin remote) (first :: rest)).2
    rw [Call.phase_of_ending? ended] at history
    rcases history.of_cancelled with ⟨request, stage, events, same, _⟩
    rw [same] at early
    rw [events]
    exact Stage.untouched early request reason
  upgraded := by
    intro reason ended
    have history :=
      (Call.run_history (Streaming.onlyStreams_sustained order.stdin remote) (first :: rest)).2
    rw [Call.phase_of_ending? ended] at history
    rcases history.of_cancelled with ⟨request, stage, events, same, caller⟩
    exact caller rfl

/-- Both the caller and the deadline are there when the whole output is: the timer goes first where
it is looked at first. -/
theorem listing_timer_first :
    Order.listing.InTime 0 ∧
      (Order.listing.run .prompt (.calm 0 :: (List.replicate 3 (.calm 0) ++
        [⟨⟨5000000000, ⟨true, false, false, true⟩⟩, true⟩]))).ending? =
        some (.returned (.error (.cancelled (.deadline (.ofSeconds 5)) .streaming))) := by
  have inTime : Order.listing.InTime (Glance.calm 0).moment.now := by
    intro timeout limited
    rw [← Option.some.inj limited]
    decide
  exact ⟨inTime, (cancels_exactly inTime .prompt _).tie (List.replicate 3 (.calm 0))
    ⟨⟨5000000000, ⟨true, false, false, true⟩⟩, true⟩ [] ⟨5000000000, .ofSeconds 5⟩ rfl rfl rfl rfl
    (Nat.le_refl _)⟩

end PodCommand
