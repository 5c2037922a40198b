import PodCommand.Session.Call

namespace PodCommand

/-- A call on a clock. -/
structure TimedCall where
  call : Call
  endedAt : Option Instant

/-- Calls under way on a clock that moves on only when all of them wait. -/
structure Schedule where
  now : Instant
  shared : Shared
  /-- When the caller gives up, if ever. -/
  cancelAt : Option Instant
  calls : List TimedCall

namespace Schedule

/-!
Running calls on a clock.  At one instant all calls are looked at in turn until nothing changes any
more; then the clock moves on to the next instant at which something can happen.
-/

/-- Local input comes before output, the output before the error output, and the caller before the
timer. -/
def choices : Choices := ⟨true, false, false, false⟩

/-- Looks at a call and notes when it ends. -/
def pollTimed (moment : Moment) (shared : Shared) (timed : TimedCall) : Shared × TimedCall :=
  let (shared, call) := timed.call.poll moment shared
  let now := if call.ending?.isSome then some moment.now else none
  (shared, ⟨call, timed.endedAt <|> now⟩)

/-- Looks at all calls in turn. -/
def pollAll (moment : Moment) (shared : Shared) : List TimedCall → Shared × List TimedCall
  | [] => (shared, [])
  | timed :: rest =>
    let (shared, timed) := pollTimed moment shared timed
    let (shared, rest) := pollAll moment shared rest
    (shared, timed :: rest)

/-- The scripts of a call that are not of its input. -/
def scriptsOf (call : Call) : List Script :=
  match call.phase with
  | .upgrading _ remote => [remote.upgrade]
  | .streaming session =>
    [session.stdout.script.getD [], session.stderr.script.getD [], session.statusScript]
  | _ => []

/-- The scripts that the input of a call waits on. -/
def inputScriptsOf (call : Call) : List Script :=
  match call.phase with
  | .streaming session => session.input.awaited
  | _ => []

/-- How much of a call is still to come: it changes whenever something happens that can matter to
another script. -/
def remaining (call : Call) : Nat :=
  match call.phase with
  | .ended _ => 0
  | .streaming session => 1 + (scriptsOf call).flatten.length + session.input.load
  | _ => 2 + (scriptsOf call).flatten.length

/-- The instants at which something can happen in a call by itself. -/
def wakes (call : Call) : List Instant :=
  match call.phase with
  | .ended _ => []
  | _ =>
    (call.deadline.map fun deadline => Instant.nextTick deadline.instant).toList ++
      (scriptsOf call ++ inputScriptsOf call).filterMap Script.wake?

/-- The first instant after the present at which something can happen. -/
def nextWake? (schedule : Schedule) : Option Instant :=
  let instants := schedule.calls.flatMap fun timed => wakes timed.call
  ((schedule.cancelAt.toList ++ instants).filter (schedule.now < ·)).min?

/-- Runs the calls until all have ended or nothing can happen any more. -/
def run (fuel : Nat) (schedule : Schedule) : Schedule :=
  let measure (calls : List TimedCall) : List Nat := calls.map fun timed => remaining timed.call
  match fuel with
  | 0 => schedule
  | fuel + 1 =>
    let (shared, calls) := pollAll ⟨schedule.now, choices⟩ schedule.shared schedule.calls
    let polled : Schedule := { schedule with shared, calls }
    if calls.all (·.endedAt.isSome) then polled
    else if measure schedule.calls ≠ measure calls then run fuel polled
    else
      match polled.nextWake? with
      | none => polled
      | some wake =>
        let givesUp := polled.cancelAt.any fun instant => instant ≤ wake
        run fuel
          { polled with
            now := wake, shared := { shared with cancelled := shared.cancelled || givesUp } }

/-- How much there is at hand of all that a session can play. -/
def remoteSize (remote : Remote) : Nat :=
  (remote.upgrade ++ remote.stdout.getD [] ++ remote.stderr.getD [] ++
    remote.statusScript).length +
  (remote.stdin.map fun sink => (Copy.start (.ofScript []) sink).load).getD 0

/-- How much there is at hand of the local input of a call. -/
def inputSize (timed : TimedCall) : Nat :=
  (timed.call.order.stdin.map fun source => 3 * source.script.load).getD 0

/-- Enough looks for a schedule to come to its end: between two of them either something of some
script is passed, or the clock moves on to an instant at which something is. -/
def looks (schedule : Schedule) : Nat :=
  let sizes := schedule.shared.remotes.map remoteSize ++ schedule.calls.map inputSize
  4 * (sizes.foldr (· + ·) 0 + 4 * schedule.calls.length + 4)

/-- Runs calls at the same time to their ends. -/
def complete (now : Instant) (shared : Shared) (cancelAt : Option Instant) (orders : List Order) :
    Schedule :=
  let schedule : Schedule := ⟨now, shared, cancelAt, orders.map fun order => ⟨.ofOrder order, none⟩⟩
  schedule.run schedule.looks

/-!
The streams of scripted servers and callers try by themselves again what has been interrupted, so
that the calls do not see it.
-/

/-- A step of a stream that does not show when it is interrupted. -/
def steadyStep : Step → Step
  | .fail failure => if failure.kind = .interrupted then .wait ⟨0⟩ else .fail failure
  | step => step

/-- A tape of a stream that does not show when it is interrupted. -/
def steadyTape (tape : Tape) : Tape :=
  ⟨tape.script.map steadyStep, fun look => (tape.later look).map (·.map steadyStep)⟩

/-- A server whose streams do not show when they are interrupted. -/
def steadyRemote (remote : Remote) : Remote :=
  { remote with
    stdin := remote.stdin.map fun sink => { sink with takes := steadyTape sink.takes }
    stdout := remote.stdout.map (·.map steadyStep)
    stderr := remote.stderr.map (·.map steadyStep) }

/-- Runs calls of scripted callers to scripted servers at the same time. -/
def together (now : Instant) (shared : Shared) (cancelAt : Option Instant) (orders : List Order) :
    Schedule :=
  complete now { shared with remotes := shared.remotes.map steadyRemote } cancelAt
    (orders.map fun order => { order with stdin := order.stdin.map steadyTape })

/-- Runs such calls one after the other; gives each schedule with the instant at which its call
began. -/
def inTurn (now : Instant) (shared : Shared) (cancelAt : Option Instant) :
    List Order → List (Instant × Schedule)
  | [] => []
  | order :: rest =>
    let schedule := together now shared cancelAt [order]
    (now, schedule) :: inTurn schedule.now schedule.shared cancelAt rest

end Schedule
end PodCommand
