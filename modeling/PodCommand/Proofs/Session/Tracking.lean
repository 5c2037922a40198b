import PodCommand.Proofs.Session.Streams

namespace PodCommand

/-!
What open streams keep of the remote side that they began with.

`capture` is the promise that each of the two channels keeps its own account of its own script,
whatever is looked at first, and that the session reports the status of the remote side.  Kept to
the end, it says that the output is what the two scripts deliver; broken off, it says what went
wrong.
-/

/-- What the remote side sends on an output channel; none if the session has no such channel. -/
def Remote.script (remote : Remote) : Outlet → Option Script
  | .output => remote.stdout
  | .errors => remote.stderr

/-- What has been captured of an output channel. -/
def Output.bytes (output : Output) : Outlet → Bytes
  | .output => output.stdout
  | .errors => output.stderr

/-- An output is what the channels of a remote side deliver up to their ends, and the events tell
so. -/
structure Output.Captures (output : Output) (remote : Remote) (events : List Event) : Prop where
  /-- A reader of the channel comes to the end without an error, with these octets; with none where
  there is no channel. -/
  delivered : ∀ outlet, ((remote.script outlet).getD []).Delivers (output.bytes outlet)
  /-- That is every chunk that the channel carries, in order. -/
  chunks : ∀ outlet, output.bytes outlet = ((remote.script outlet).getD []).bytes
  read : ∀ outlet, events.flatMap (Event.octets outlet) = output.bytes outlet
  drained : ∀ outlet, remote.script outlet = none ∨ .drained outlet ∈ events
  unbroken : ∀ outlet failure, .broken outlet failure ∉ events
  status : remote.status = some output.exitStatus
  reported : .statusReported (some output.exitStatus) ∈ events

/-- What can end the streams of a session before they are complete. -/
inductive StreamFailure.Raised (failure : StreamFailure) (events : List Event) : Prop
  | broken (outlet : Outlet) (told : .broken outlet failure ∈ events)
  | input (told : .inputFailed failure ∈ events)
  | unreported (missing : failure = .missingStatus) (told : .statusReported none ∈ events)

namespace Streaming

/-- What open streams keep of the remote side that they began with. -/
structure Tracks (remote : Remote) (events : List Event) (session : Streaming) : Prop where
  channel : ∀ outlet,
    Channel.Account outlet (remote.script outlet) events (session.channel outlet)
  status : session.status = remote.status
  unreported : ∀ status, .statusReported status ∉ events
  /-- The far side of the input is not closed while input is forwarded to it. -/
  unshut : session.input.forwarding = true → session.input.closed = false

/-- Open streams track the remote side; then they have captured it, or something went wrong. -/
def capture (remote : Remote) : Promise where
  pending := Tracks remote
  finished := fun events output => output.Captures remote events
  failed := fun events failure => failure.Raised events ∧
    ∀ status, .statusReported (some status) ∉ events

theorem tracks_start (source : Option Tape) (remote : Remote) :
    Tracks remote [] (.start source remote) where
  channel := by
    intro outlet
    cases outlet with
    | output => exact Channel.account_ofScript .output remote.stdout
    | errors => exact Channel.account_ofScript .errors remote.stderr
  status := rfl
  unreported := fun _ => List.not_mem_nil
  unshut := fun _ => rfl

section

variable {remote : Remote} {before : List Event} {session : Streaming}

/-- Reading a channel keeps its account, and leaves the account of the other as it is. -/
theorem Tracks.lookChannel (tracks : Tracks remote before session) (outlet : Outlet)
    (now : Instant) (cancelled : Bool) :
    (session.lookChannel now outlet cancelled).Keeps (capture remote) before := by
  have reading := Channel.look_isReading outlet (session.input.surroundings now) cancelled
    (session.channel outlet)
  have unreported : ∀ {status}, .statusReported status ∉ before ++
      ((session.channel outlet).look outlet (session.input.surroundings now) cancelled).events := by
    intro status member
    rcases List.mem_append.mp member with earlier | later
    · exact tracks.unreported status earlier
    · cases reading _ later
  unfold Streaming.lookChannel
  dsimp only
  split
  · rename_i failure broken
    have told := Channel.look_broken broken
    exact ⟨.broken outlet (List.mem_append_right before told), fun _ => unreported⟩
  · rename_i sound
    refine ⟨fun other => ?_, ?_, fun _ => unreported, ?_⟩
    · by_cases same : outlet = other
      · subst same
        rw [channel_withChannel]
        exact (tracks.channel outlet).look _ cancelled sound
      · rw [channel_withChannel_of_ne session same]
        exact (tracks.channel other).append fun event member =>
          Event.isReading_of_ne same (reading event member)
    · rw [withChannel_status]
      exact tracks.status
    · rw [withChannel_input]
      exact tracks.unshut

/-- What is not reading leaves both accounts as they are. -/
theorem Tracks.silent (tracks : Tracks remote before session) {more : List Event}
    (silent : ∀ outlet, ∀ event ∈ more, event.isReading outlet = false) (outlet : Outlet) :
    Channel.Account outlet (remote.script outlet) (before ++ more) (session.channel outlet) :=
  (tracks.channel outlet).append (silent outlet)

/-- Streams that have come to their ends, and whose session reports a status, have captured what the
remote side sends. -/
theorem Tracks.captures (tracks : Tracks remote before session)
    (output : session.stdout.hasEnded = true) (errors : session.stderr.hasEnded = true)
    {status : ExitStatus} (present : session.status = some status) {asked : List Event}
    (silent : ∀ outlet, ∀ event ∈ asked, event.isReading outlet = false)
    (reported : .statusReported (some status) ∈ asked) :
    Output.Captures ⟨session.stdout.captured, session.stderr.captured, status⟩ remote
      (before ++ asked) := by
  have ended : ∀ outlet, (session.channel outlet).hasEnded = true := by
    intro outlet
    cases outlet with
    | output => exact output
    | errors => exact errors
  have bytes : ∀ outlet, Output.bytes
      ⟨session.stdout.captured, session.stderr.captured, status⟩ outlet =
        (session.channel outlet).captured := by
    intro outlet
    cases outlet <;> rfl
  have account := tracks.silent silent
  have delivered : ∀ outlet, ((remote.script outlet).getD []).Delivers (Output.bytes
      ⟨session.stdout.captured, session.stderr.captured, status⟩ outlet) := by
    intro outlet
    rw [bytes]
    exact (account outlet).delivers (ended outlet)
  refine ⟨delivered, ?_, ?_, ?_, ?_, ?_, List.mem_append_right before reported⟩
  · intro outlet
    exact (delivered outlet).eq_bytes
  · intro outlet
    rw [bytes]
    exact (account outlet).captured.symm
  · intro outlet
    exact (account outlet).drained (Option.isNone_iff_eq_none.mp (ended outlet))
  · intro outlet failure
    exact (account outlet).unbroken failure
  · rw [← tracks.status]
    exact present

theorem Tracks.askStatus (tracks : Tracks remote before session)
    (output : session.stdout.hasEnded = true) (errors : session.stderr.hasEnded = true)
    (now : Instant) (cancelled : Bool) :
    (session.askStatus now cancelled).Keeps (capture remote) before := by
  unfold Streaming.askStatus
  dsimp only
  have asking : ∀ event ∈ (if session.statusAsked then [] else [Event.statusAsked]),
      event = .statusAsked := by
    split <;> simp
  generalize (if session.statusAsked then [] else [Event.statusAsked]) = asked at asking ⊢
  split
  · refine ⟨tracks.silent ?_, tracks.status, ?_, tracks.unshut⟩
    · intro outlet event member
      rw [asking event member]
      rfl
    · intro status member
      rcases List.mem_append.mp member with earlier | later
      · exact tracks.unreported status earlier
      · cases asking _ later
  · unfold conclusion
    dsimp only
    cases present : session.status with
    | some status =>
        refine tracks.captures output errors present ?_ (List.mem_append_right asked ?_)
        · intro outlet event member
          rcases List.mem_append.mp member with asked | reported
          · rw [asking event asked]
            rfl
          · rw [List.mem_singleton.mp reported]
            rfl
        · exact List.mem_singleton_self _
    | none =>
        refine ⟨.unreported rfl ?_, ?_⟩
        · exact List.mem_append_right before (List.mem_append_right asked List.mem_cons_self)
        · intro status member
          rcases List.mem_append.mp member with earlier | later
          · exact tracks.unreported _ earlier
          · rcases List.mem_append.mp later with asked | reported
            · cases asking _ asked
            · cases List.mem_singleton.mp reported

theorem Tracks.lookInput (tracks : Tracks remote before session)
    (forwarding : session.input.forwarding = true) (now : Instant) (cancelled : Bool) :
    (session.lookInput now cancelled).Keeps (capture remote) before := by
  have feeding := Input.look_isForwarding now cancelled session.input
  have unreported : ∀ {status}, .statusReported status ∉ before ++
      (session.input.look now cancelled).events := by
    intro status member
    rcases List.mem_append.mp member with earlier | later
    · exact tracks.unreported status earlier
    · cases feeding _ later
  unfold Streaming.lookInput
  dsimp only
  split
  · rename_i failure failed
    exact ⟨.input (List.mem_append_right before (Input.look_failed failed)), fun _ => unreported⟩
  · refine ⟨tracks.silent ?_, tracks.status, fun _ => unreported, fun still => ?_⟩
    · intro outlet event member
      have own := feeding event member
      cases event <;> first | rfl | cases own
    · exact (Input.look_closed still).trans (tracks.unshut forwarding)

end

/-- The promise of capture is kept by every look at the streams of a session. -/
theorem capture_sustained (source : Option Tape) (remote : Remote) :
    (capture remote).Sustained source remote where
  start := tracks_start source remote
  look := by
    intro choices now cancelled before session tracks
    apply look_keeps
    case reads =>
      exact fun outlet now cancelled _ _ tracks => tracks.lookChannel outlet now cancelled
    case asks =>
      exact fun now cancelled _ _ tracks output errors =>
        tracks.askStatus output errors now cancelled
    case feeds =>
      exact fun now cancelled _ _ tracks forwarding => tracks.lookInput forwarding now cancelled
    case kept => exact tracks

end Streaming
end PodCommand
