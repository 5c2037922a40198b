import PodCommand.Session.Schedule

namespace PodCommand

/-!
Runs of one call in any world.

A run is a list of glances, one for each step that the call takes.  The time and the caller's wish
may be anything at any of them, so a run covers the caller who gives up between two steps, the timer
that goes off late, and whatever other calls do meanwhile; the clock of a schedule is one special
case.  What a call sees of the server is one remote side, the one that it is handed when it asks.
-/

/-- What a call meets when it takes a step: the moment, and whether the caller has given up by
then. -/
structure Glance where
  moment : Moment
  cancelled : Bool
  deriving DecidableEq, Repr

namespace Call

/-- The call after one step, with a server that will do what the remote side says. -/
def next (remote : Remote) (call : Call) (glance : Glance) : Call :=
  (call.step glance.moment ⟨glance.cancelled, [remote]⟩).2

/-- The call after one step at each glance. -/
def after (remote : Remote) (call : Call) (glances : List Glance) : Call :=
  glances.foldl (next remote) call

end Call

/-- What an order has come to after one step at each glance. -/
def Order.run (order : Order) (remote : Remote) (glances : List Glance) : Call :=
  (Call.ofOrder order).after remote glances

namespace Call

@[simp] theorem after_nil (remote : Remote) (call : Call) : call.after remote [] = call := rfl

theorem after_cons (remote : Remote) (call : Call) (glance : Glance) (rest : List Glance) :
    call.after remote (glance :: rest) = (call.next remote glance).after remote rest := rfl

theorem after_append (remote : Remote) (call : Call) (first second : List Glance) :
    call.after remote (first ++ second) = (call.after remote first).after remote second :=
  List.foldl_append

/-- What every step keeps, every run keeps. -/
theorem after_invariant {remote : Remote} (invariant : Call → Prop)
    (kept : ∀ call glance, invariant call → invariant (call.next remote glance))
    {call : Call} (initial : invariant call) (glances : List Glance) :
    invariant (call.after remote glances) := by
  induction glances generalizing call with
  | nil => exact initial
  | cons glance rest ih => exact ih (kept call glance initial)

/-! ## What no step changes once a call has begun -/

/-- What stays of a call that has begun, whatever step it takes. -/
structure Leads (call later : Call) : Prop where
  order : later.order = call.order
  deadline : later.deadline = call.deadline
  begun : later.phase ≠ .fresh
  inTime : later.phase ≠ .ended .clockOverflow

theorem Leads.of_record {call later : Call} {events : List Event}
    (leads : (call.record events).Leads later) : call.Leads later :=
  ⟨leads.order, leads.deadline, leads.begun, leads.inTime⟩

theorem fail_order (call : Call) : call.fail.order = call.order := by
  unfold fail
  split <;> rfl

theorem fail_deadline (call : Call) : call.fail.deadline = call.deadline := by
  unfold fail
  split <;> rfl

theorem leads_cancelEarly (call : Call) (reason : CancelReason) :
    call.Leads (call.cancelEarly reason) := by
  constructor <;> simp [cancelEarly, finish, enter, fail_order, fail_deadline]

theorem leads_cancelStreams (call : Call) (reason : CancelReason) :
    call.Leads (call.cancelStreams reason) := by
  constructor <;>
    simp [cancelStreams, finish, enter, release, record, fail_order, fail_deadline]

theorem leads_awaitUpgrade (moment : Moment) (shared : Shared) (call : Call) (request : Request)
    (remote : Remote) : call.Leads (awaitUpgrade moment shared call request remote).2 := by
  unfold awaitUpgrade
  dsimp only
  split <;> constructor <;>
    simp [finish, enter, record, advance, fail_order, fail_deadline]

theorem leads_stream (moment : Moment) (shared : Shared) (call : Call) (session : Streaming) :
    call.Leads (stream moment shared call session).2 := by
  unfold stream
  dsimp only
  split <;> constructor <;>
    simp [complete, breakStreams, finish, enter, release, record, advance, fail_order,
      fail_deadline]

theorem leads_next {call : Call} (begun : call.phase ≠ .fresh)
    (inTime : call.phase ≠ .ended .clockOverflow) (remote : Remote) (glance : Glance) :
    call.Leads (call.next remote glance) := by
  unfold next step
  cases phase : call.phase with
  | fresh => exact absurd phase begun
  | built request =>
      dsimp only
      split
      · exact leads_cancelEarly call .caller
      · constructor <;> simp [enter]
  | asking request =>
      dsimp only
      split
      · exact leads_cancelEarly call _
      · exact (leads_awaitUpgrade _ _ (call.record [.upgradeStarted request.url]) request
          remote).of_record
  | upgrading request current =>
      dsimp only
      split
      · exact leads_cancelEarly call _
      · exact leads_awaitUpgrade _ _ call request current
  | opened current =>
      dsimp only
      split
      · constructor <;>
          simp [cancelEarly, finish, enter, release, record, fail_order, fail_deadline]
      · constructor <;> simp [enter, advance]
  | entering current =>
      dsimp only
      split
      · exact leads_cancelStreams call _
      · exact (leads_stream _ _ (call.record [.inputTaken, .outputTaken, .errorsTaken]) _).of_record
  | streaming session =>
      dsimp only
      split
      · exact leads_cancelStreams call _
      · exact leads_stream _ _ call session
  | ended ending => exact ⟨rfl, rfl, begun, inTime⟩

/-- What stays of a call that has begun stays over every run. -/
theorem leads_after {call : Call} (begun : call.phase ≠ .fresh)
    (inTime : call.phase ≠ .ended .clockOverflow) (remote : Remote) (glances : List Glance) :
    call.Leads (call.after remote glances) :=
  after_invariant call.Leads (fun _ glance leads =>
    have further := leads_next leads.begun leads.inTime remote glance
    ⟨further.order.trans leads.order, further.deadline.trans leads.deadline, further.begun,
      further.inTime⟩) ⟨rfl, rfl, begun, inTime⟩ glances

/-! ## A call that has ended stays as it is -/

theorem phase_of_ending? {call : Call} {ending : Ending ExecError Output}
    (ended : call.ending? = some ending) : call.phase = .ended ending := by
  unfold ending? at ended
  split at ended
  · rename_i same
    rw [same, Option.some.inj ended]
  · cases ended

theorem next_of_ended {call : Call} {ending : Ending ExecError Output}
    (ended : call.ending? = some ending) (remote : Remote) (glance : Glance) :
    call.next remote glance = call := by
  simp only [next, step, phase_of_ending? ended]

theorem after_of_ended {call : Call} {ending : Ending ExecError Output}
    (ended : call.ending? = some ending) (remote : Remote) (glances : List Glance) :
    call.after remote glances = call :=
  after_invariant (fun later => later = call)
    (fun later glance same => by rw [same, next_of_ended ended]) rfl glances

/-- A run that ends does so at one of its glances; the rest of them change nothing. -/
theorem exists_last_step {remote : Remote} {call : Call} {glances : List Glance}
    {ending : Ending ExecError Output} (fresh : call.ending? = none)
    (ended : (call.after remote glances).ending? = some ending) :
    ∃ before glance rest, glances = before ++ glance :: rest ∧
      (call.after remote before).ending? = none ∧
      (call.after remote before).next remote glance = call.after remote glances := by
  induction glances generalizing call with
  | nil =>
      rw [after_nil, fresh] at ended
      cases ended
  | cons glance rest ih =>
      cases stopped : (call.next remote glance).ending? with
      | some early =>
          refine ⟨[], glance, rest, rfl, fresh, ?_⟩
          rw [after_cons, after_of_ended stopped]
          rfl
      | none =>
          rcases ih stopped ended with ⟨before, last, later, split, unfinished, same⟩
          exact ⟨glance :: before, last, later, by rw [split, List.cons_append], unfinished, same⟩

end Call

theorem Order.run_concat (order : Order) (remote : Remote) (glances : List Glance)
    (glance : Glance) :
    order.run remote (glances ++ [glance]) = (order.run remote glances).next remote glance := by
  rw [run, Call.after_append]
  rfl

theorem Order.exists_last_step {order : Order} {remote : Remote} {glances : List Glance}
    {ending : Ending ExecError Output} (ended : (order.run remote glances).ending? = some ending) :
    ∃ before glance rest, glances = before ++ glance :: rest ∧
      (order.run remote before).ending? = none ∧
      (order.run remote before).next remote glance = order.run remote glances :=
  Call.exists_last_step rfl ended

/-- A run is over with the step that ends it. -/
theorem Order.run_of_last {order : Order} {remote : Remote} {before : List Glance}
    {glance : Glance} {ending : Ending ExecError Output}
    (stopped : ((order.run remote before).next remote glance).ending? = some ending)
    (later : List Glance) :
    order.run remote (before ++ glance :: later) =
      (order.run remote before).next remote glance := by
  have split : order.run remote (before ++ glance :: later) =
      ((order.run remote before).next remote glance).after remote later := by
    rw [run, Call.after_append, Call.after_cons]
    rfl
  rw [split, Call.after_of_ended stopped]

/-! ## The first glance fixes the deadline -/

/-- The deadline of an order that is begun at an instant, if it has one that the clock can count
to. -/
def Order.deadlineFrom (order : Order) (now : Instant) : Option Deadline :=
  order.timeout.bind fun timeout =>
    (Instant.add? now timeout).map fun instant => ⟨instant, timeout⟩

/-- The clock can count to the deadline of an order that is begun at an instant. -/
def Order.InTime (order : Order) (now : Instant) : Prop :=
  ∀ timeout, order.timeout = some timeout → (Instant.add? now timeout).isSome = true

namespace Call

theorem build_leads (call : Call) : call.Leads call.build := by
  unfold build
  split <;> constructor <;> simp [finish, enter, record, advance]

/-- The first step of an order in time sets the deadline and builds the request. -/
theorem start_of_inTime {order : Order} {moment : Moment} (inTime : order.InTime moment.now) :
    start moment (ofOrder order) =
      build { ofOrder order with deadline := order.deadlineFrom moment.now } := by
  unfold start ofOrder Order.deadlineFrom
  dsimp only
  cases timed : order.timeout with
  | none => rfl
  | some timeout =>
      rcases Option.isSome_iff_exists.mp (inTime timeout timed) with ⟨instant, counted⟩
      simp only [counted, Option.bind_some, Option.map_some]

theorem run_cons (order : Order) (remote : Remote) (glance : Glance) (rest : List Glance) :
    order.run remote (glance :: rest) =
      (start glance.moment (ofOrder order)).after remote rest := rfl

/-- An improper order is refused at the first glance. -/
theorem run_of_refused {order : Order} {glance : Glance} (inTime : order.InTime glance.moment.now)
    (remote : Remote) {error : RequestError} (refused : order.request = .error error) :
    (order.run remote [glance]).ending? = some (.returned (.error (.rejected error))) := by
  rw [run_cons, start_of_inTime inTime]
  unfold build ofOrder
  simp only [refused]
  rfl

/-- A proper order is ready to be sent after the first glance. -/
theorem run_of_valid {order : Order} {glance : Glance} (inTime : order.InTime glance.moment.now)
    (remote : Remote) {request : Request} (valid : order.request = .ok request) :
    order.run remote [glance] =
      ⟨order, order.deadlineFrom glance.moment.now, .requestBuilt, .built request,
        [.advanced .idle .requestBuilt, .requestReady request.url]⟩ := by
  rw [run_cons, start_of_inTime inTime]
  unfold build ofOrder
  simp only [valid]
  rfl

/-- After the first glance the deadline of a run stands, and the run never fails for the clock. -/
theorem run_leads {order : Order} {glance : Glance} (inTime : order.InTime glance.moment.now)
    (remote : Remote) (rest : List Glance) :
    Leads { ofOrder order with deadline := order.deadlineFrom glance.moment.now }
      (order.run remote (glance :: rest)) := by
  rw [run_cons, start_of_inTime inTime]
  have first := build_leads { ofOrder order with deadline := order.deadlineFrom glance.moment.now }
  have later := leads_after first.begun first.inTime remote rest
  exact ⟨later.order.trans first.order, later.deadline.trans first.deadline, later.begun,
    later.inTime⟩

end Call

/-! ## A small world -/

/-- An order to list files, within five seconds. -/
def Order.listing : Order := ⟨.pod "default" "web", ["ls"], some (.ofSeconds 5), none⟩

/-- A server that has everything ready. -/
def Remote.prompt : Remote :=
  ⟨[], none, some [.data [97], .data [98]], some [.data [33]], [], some (.exited 0)⟩

/-- A glance at which the caller does not give up. -/
def Glance.calm (now : Instant) : Glance := ⟨⟨now, Schedule.choices⟩, false⟩

end PodCommand
