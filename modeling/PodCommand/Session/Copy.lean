import PodCommand.Session.Tape

namespace PodCommand

/-- How the far side of a session's input answers when it is flushed, time after time, and when it
is shut down. -/
structure Closing where
  flushes : Tape
  shutdown : Tape

/-- A far side that answers at once, and with a failure if it is given one for being shut down. -/
def Closing.ofFailure (failure : Option StreamFailure) : Closing :=
  ⟨.ofScript [], .ofScript (failure.map Step.fail).toList⟩

instance : Coe (Option StreamFailure) Closing := ⟨Closing.ofFailure⟩

/-- The far side of the session's input. -/
structure Sink where
  /-- What it takes of the octets that are written to it. -/
  takes : Tape
  closing : Closing

/-- A far side that takes at once whatever is written to it. -/
def Sink.ready : Sink := ⟨.ofScript [], .ofFailure none⟩

namespace Copy

/-- What a copy does next. -/
inductive Stage
  /-- It reads more, for which there is room in the buffer. -/
  | reading
  /-- It writes what it has read. -/
  | writing
  /-- It reads once more, since nothing can be written now. -/
  | toppingUp
  /-- It flushes what it has written, since nothing can be read now. -/
  | flushing
  /-- It flushes what it has written, which is all there is. -/
  | finishing
  /-- It shuts the far side down. -/
  | closing
  deriving DecidableEq, Repr

/-- How far a copy has come. -/
inductive Outcome
  | pending
  | done
  | failed (failure : StreamFailure)
  deriving DecidableEq, Repr

end Copy

/-- Octets on their way from a source to a far side. -/
structure Copy where
  source : Tape
  sink : Sink
  stage : Copy.Stage
  /-- Octets that have been read and not been taken yet. -/
  unwritten : Bytes
  /-- How much of the buffer has been filled since it was last empty. -/
  filled : Nat
  /-- Whether the source has come to its end. -/
  exhausted : Bool
  /-- Whether anything has been written since the far side was last flushed. -/
  unflushed : Bool
  /-- Octets that the far side has taken. -/
  received : Bytes

namespace Copy

/-!
Copying octets from a source to a far side, by way of a buffer.

Octets are read into the buffer and written out of it, and read again only when all of them have
been written.  While the far side takes nothing, one read tops the buffer up; while there is nothing
to be read, what has been written is flushed, and so it is after the last octet; then the far side
is shut down.  A failure of any of these ends the copy, whatever its kind.

`step` makes one request, and `run` makes requests until the copy has to wait or has come to its
end.
-/

/-- How many octets the buffer holds. -/
def bufferSize : Nat := 8192

/-- A copy of which nothing has been done. -/
def start (source : Tape) (sink : Sink) : Copy :=
  ⟨source, sink, .reading, [], 0, false, false, []⟩

/-- The copy when it is looked at again. -/
def turn (copy : Copy) : Copy :=
  { copy with
    source := copy.source.turn
    sink :=
      ⟨copy.sink.takes.turn, copy.sink.closing.flushes.turn, copy.sink.closing.shutdown.turn⟩ }

/-- What tapes can see while the copy is as it is. -/
def surroundings (copy : Copy) (now : Instant) : Surroundings :=
  ⟨now, copy.received.length, false⟩

/-- What one request comes to, with the copy after it. -/
inductive Stride
  | quiet (next : Copy)
  /-- The caller has given up meanwhile. -/
  | gaveUp (next : Copy)
  /-- The far side has taken octets. -/
  | wrote (bytes : Bytes) (next : Copy)
  /-- The copy makes no further request at once. -/
  | rests (next : Copy) (outcome : Outcome)

section

variable (copy : Copy)

/-- The copy with what is left of its source. -/
def withSource (left : Tape) : Copy := { copy with source := left }

/-- The copy with what is left of its far side. -/
def withTakes (left : Tape) : Copy := { copy with sink := { copy.sink with takes := left } }

def withFlushes (left : Tape) : Copy :=
  { copy with sink := { copy.sink with closing := { copy.sink.closing with flushes := left } } }

def withShutdown (left : Tape) : Copy :=
  { copy with sink := { copy.sink with closing := { copy.sink.closing with shutdown := left } } }

/-- The copy at another stage. -/
def enter (stage : Stage) : Copy := { copy with stage := stage }

/-- Puts octets into the buffer that have been read, as far as there is room for them; the others
are still to be read. -/
def fill (bytes : Bytes) (left : Tape) : Copy :=
  let read := bytes.take (bufferSize - copy.filled)
  { copy with
    source := left.unread (bytes.drop (bufferSize - copy.filled))
    unwritten := copy.unwritten ++ read
    filled := copy.filled + read.length }

/-- Reads from the source; goes on in one way if it has given something or has come to its end, and
in another if there is nothing to be read now. -/
def read (now : Instant) (given starved : Copy → Stride) : Stride :=
  match copy.source.ask (copy.surroundings now) with
  | .ended => given { copy with exhausted := true }
  | .passed left | .accepts _ left => .quiet (copy.withSource left)
  | .gaveUp left => .gaveUp (copy.withSource left)
  | .held left => starved (copy.withSource left)
  | .data bytes left =>
    if bytes.isEmpty then .quiet (copy.withSource left) else given (copy.fill bytes left)
  | .failed failure left => .rests (copy.withSource left) (.failed failure)

/-- What has been read is written next, and after the end of the source the last flush. -/
def proceed : Stride :=
  .quiet (copy.enter (if copy.unwritten.isEmpty then .finishing else .writing))

/-- Where nothing can be read now, what there is is written, or else flushed. -/
def starve : Stride :=
  if !copy.unwritten.isEmpty then .quiet (copy.enter .writing)
  else if copy.unflushed then .quiet (copy.enter .flushing)
  else .rests copy .pending

/-- Waits for the far side to take something; there may be room for more until then. -/
def await : Stride :=
  .rests
    (copy.enter (if !copy.exhausted && copy.filled < bufferSize then .reading else .writing))
    .pending

/-- Where nothing can be written now, more is read if there is room for it. -/
def stall : Stride :=
  if !copy.exhausted && copy.filled < bufferSize then .quiet (copy.enter .toppingUp)
  else .rests copy .pending

/-- So many octets of the buffer have been taken. -/
def deliver (count : Nat) : Copy :=
  let copy : Copy :=
    { copy with
      unwritten := copy.unwritten.drop count
      unflushed := true
      received := copy.received ++ copy.unwritten.take count }
  if !copy.unwritten.isEmpty then copy
  else { copy with filled := 0, stage := if copy.exhausted then .finishing else .reading }

/-- Writes what is in the buffer. -/
def write (now : Instant) : Stride :=
  match copy.sink.takes.ask (copy.surroundings now) with
  | .ended => .wrote copy.unwritten (copy.deliver copy.unwritten.length)
  | .passed left | .data _ left => .quiet (copy.withTakes left)
  | .gaveUp left => .gaveUp (copy.withTakes left)
  | .held left => (copy.withTakes left).stall
  | .failed failure left => .rests (copy.withTakes left) (.failed failure)
  | .accepts count left =>
    if count = 0 then .rests (copy.withTakes left) (.failed .zeroWrite)
    else
      -- What the far side would take beyond that, it takes of the next octets.
      let left := left.readyFor (count - copy.unwritten.length)
      .wrote (copy.unwritten.take count) ((copy.withTakes left).deliver count)

/-- Waits for an answer of the far side that carries nothing. -/
def settle (now : Instant) (tape : Tape) (put : Tape → Copy) (held answered : Copy → Stride) :
    Stride :=
  match tape.ask (copy.surroundings now) with
  | .ended => answered copy
  | .passed left => .quiet (put left)
  | .gaveUp left => .gaveUp (put left)
  | .held left => held (put left)
  | .data _ left | .accepts _ left => answered (put left)
  | .failed failure left => .rests (put left) (.failed failure)

/-- Makes the request that the stage of the copy asks for. -/
def step (now : Instant) : Stride :=
  match copy.stage with
  | .reading => copy.read now proceed starve
  | .writing => copy.write now
  | .toppingUp => copy.read now await await
  | .flushing =>
    -- The source is read again at the next look, whether the far side has answered or not.
    copy.settle now copy.sink.closing.flushes copy.withFlushes
      (fun copy => .rests (copy.enter .reading) .pending)
      (fun copy => .rests { copy.enter .reading with unflushed := false } .pending)
  | .finishing =>
    copy.settle now copy.sink.closing.flushes copy.withFlushes
      (fun copy => .rests copy .pending) (fun copy => .quiet (copy.enter .closing))
  | .closing =>
    copy.settle now copy.sink.closing.shutdown copy.withShutdown
      (fun copy => .rests copy .pending) (fun copy => .rests copy .done)

end

/-- Requests made one after the other: the copy after them, what they have come to, whether the
caller has given up meanwhile, and what the far side has taken, write by write. -/
structure Attempt where
  copy : Copy
  outcome : Outcome
  gaveUp : Bool
  writes : List Bytes

/-- How many requests a copy may make yet at a stage, apart from those that its tapes and what is in
the buffer give rise to. -/
def Stage.rank : Stage → Nat
  | reading => 3
  | writing | finishing => 2
  | toppingUp | flushing | closing => 1

/-- The scripts that a copy at rest waits on. -/
def awaited (copy : Copy) : List Script :=
  match copy.stage with
  | .reading =>
    if !copy.unwritten.isEmpty then [copy.source.script, copy.sink.takes.script]
    else if copy.unflushed then [copy.source.script, copy.sink.closing.flushes.script]
    else [copy.source.script]
  | .writing => [copy.sink.takes.script]
  | .toppingUp => [copy.source.script]
  | .flushing | .finishing => [copy.sink.closing.flushes.script]
  | .closing => [copy.sink.closing.shutdown.script]

/-- How much is still to be copied of what is at hand.  An octet is read and written, and a write
may make room for reading again. -/
def load (copy : Copy) : Nat :=
  3 * copy.source.script.load + 2 * copy.unwritten.length + copy.sink.takes.script.length +
    copy.sink.closing.flushes.script.length + copy.sink.closing.shutdown.script.length

/-- A bound on the requests that a copy makes before it rests: every request but the last lowers
it. -/
def work (copy : Copy) : Nat := copy.load + copy.stage.rank

/-- Makes requests until the copy rests; the fuel bounds their number. -/
def run (now : Instant) : Nat → Copy → Attempt
  | 0, copy => ⟨copy, .pending, false, []⟩
  | fuel + 1, copy =>
    match copy.step now with
    | .quiet next => run now fuel next
    | .gaveUp next => { run now fuel next with gaveUp := true }
    | .wrote bytes next =>
      let later := run now fuel next
      { later with writes := bytes :: later.writes }
    | .rests next outcome => ⟨next, outcome, false, []⟩

end Copy
end PodCommand
