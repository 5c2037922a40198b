import PodCommand.Proofs.Execution.Course
import PodCommand.Proofs.Session.Calm
import PodCommand.Proofs.Session.Capture
import PodCommand.Proofs.Session.Clock
import PodCommand.Proofs.Transport.Frames

namespace PodCommand

/-!
From the frames of a connection to the result of a run.

A run that finds credentials, builds a client and is handed a session gives back what the server has
sent on the two output channels, each in order and as text, up to the first report on how the
command ended; it does so whatever that report says, as long as it can be read.  Without a report
that can be read the run fails, and gives back nothing of what it has read.  This holds of every run
in which nobody gives up, the deadline does not expire and the local input does not fail; and where
the server only sends and pauses, in less time than is allowed, the run on the clock comes to its
end.
-/

namespace Frame

/-- What a call comes to that reads the frames of a session to their end. -/
def outcome (frames : List Frame) : Except ExecError Output :=
  match status? frames with
  | some status =>
    .ok ⟨content outputChannel (live frames), content errorChannel (live frames), status⟩
  | none => .error (.stream .missingStatus)

/-- The text of what frames carry on a channel. -/
def text (channel : UInt8) (frames : List Frame) : String :=
  String.ofList (Text.Utf8.decodeLossy (content channel frames))

/-- What a run comes to that reads the frames of a session to their end. -/
structure Demultiplexed (frames : List Frame)
    (ending : Ending ExecutionError (String × String)) : Prop where
  /-- The first report can be read: the texts of the two channels before it. -/
  reported : ∀ before bytes after report,
    frames = before ++ .message (reportChannel :: bytes) :: after →
    (∀ frame ∈ before, frame.isLast = false) → bytes ≠ [] →
    StatusReport.parse? bytes = some report →
    ending = .returned (.ok (text outputChannel before, text errorChannel before))
  /-- The first report cannot be read. -/
  unreadable : ∀ before bytes after,
    frames = before ++ .message (reportChannel :: bytes) :: after →
    (∀ frame ∈ before, frame.isLast = false) → bytes ≠ [] →
    StatusReport.parse? bytes = none →
    ending = .returned (.error (.exec (.stream .missingStatus)))
  /-- The connection is closed, or breaks off, before there is a report. -/
  unreported : ∀ before,
    (frames = before ∨ ∃ after, frames = before ++ .close :: after) →
    (∀ frame ∈ before, frame.isLast = false) →
    ending = .returned (.error (.exec (.stream .missingStatus)))

theorem payload?_report {bytes : Bytes} (filled : bytes ≠ []) :
    payload? reportChannel (.message (reportChannel :: bytes)) = some bytes := by
  cases bytes with
  | nil => exact absurd rfl filled
  | cons first rest => rfl

theorem isLast_report {bytes : Bytes} (filled : bytes ≠ []) :
    isLast (.message (reportChannel :: bytes)) = true := by
  rw [isLast, payload?_report filled]
  rfl

/-- The first report alone tells how the command ended. -/
theorem status?_of_report {before after : List Frame} {bytes : Bytes}
    (unended : ∀ frame ∈ before, frame.isLast = false) (filled : bytes ≠ []) :
    status? (before ++ .message (reportChannel :: bytes) :: after) =
      (StatusReport.parse? bytes).map .ofReport := by
  simp only [status?, find?_of_ends unended (isLast_report filled), payload?_report filled,
    Option.bind_eq_bind, Option.bind_some]
  cases StatusReport.parse? bytes <;> rfl

/-- Without a report nothing tells it. -/
theorem status?_of_closed {frames before : List Frame}
    (closed : frames = before ∨ ∃ after, frames = before ++ .close :: after)
    (unended : ∀ frame ∈ before, frame.isLast = false) : status? frames = none := by
  rcases closed with rfl | ⟨after, rfl⟩
  · have missing : frames.find? isLast = none :=
      List.find?_eq_none.mpr fun frame member => by simp [unended frame member]
    simp only [status?, missing, Option.bind_eq_bind, Option.bind_none]
  · have closes : isLast .close = true := rfl
    simp only [status?, find?_of_ends unended closes, Option.bind_eq_bind, Option.bind_some]
    rfl

/-- The outcome of frames is told by where they end. -/
theorem demultiplexed_outcome (frames : List Frame) :
    Demultiplexed frames ((Ending.returned (outcome frames)).map .exec Output.texts) where
  reported := by
    rintro before bytes after report rfl unended filled readable
    rw [outcome, live_of_ends unended (isLast_report filled), status?_of_report unended filled,
      readable]
    rfl
  unreadable := by
    rintro before bytes after rfl unended filled unreadable
    rw [outcome, status?_of_report unended filled, unreadable]
    rfl
  unreported := by
    intro before closed unended
    rw [outcome, status?_of_closed closed unended]
    rfl

end Frame

/-! ## What a call gives -/

namespace Call

variable {order : Order} {sink : Sink} {request : Request} {frames : List Frame}
  {glances : List Glance}

/-- Streams that are over have given what the frames come to, unless the local input has failed. -/
theorem StreamsOver.outcome
    (closed : (order.run (Frame.session sink request.attached frames) glances).StreamsOver)
    (unfailed : ∀ failure, .inputFailed failure ∉
      (order.run (Frame.session sink request.attached frames) glances).events) :
    (order.run (Frame.session sink request.attached frames) glances).ending? =
      some (.returned (Frame.outcome frames)) := by
  rcases closed with ⟨output, ended⟩ | ⟨failure, ended⟩
  · have history := (run_history (Streaming.capture_sustained order.stdin
      (Frame.session sink request.attached frames)) glances).2
    rw [phase_of_ending? ended] at history
    have captures := history.captures
    have status : Frame.status? frames = some output.exitStatus := captures.status
    have stdout : output.stdout = Frame.content Frame.outputChannel (Frame.live frames) :=
      (captures.chunks .output).trans (Frame.bytes_script Frame.outputChannel frames)
    have stderr : output.stderr = Frame.content Frame.errorChannel (Frame.live frames) :=
      (captures.chunks .errors).trans (Frame.bytes_script Frame.errorChannel frames)
    rw [ended, Frame.outcome, status, ← stdout, ← stderr]
  · have sound : ∀ outlet,
        (((Frame.session sink request.attached frames).script outlet).getD []).Sound := by
      intro outlet
      cases outlet with
      | output => exact Frame.sound_script Frame.outputChannel frames
      | errors => exact Frame.sound_script Frame.errorChannel frames
    have history := (run_history (Streaming.sound_sustained order.stdin sound) glances).2
    rw [phase_of_ending? ended] at history
    rcases history.sound_broken with told | ⟨rfl, missing⟩
    · exact absurd told (unfailed failure)
    · have silent : Frame.status? frames = none := missing
      rw [ended, Frame.outcome, silent]

end Call

/-! ## A call on the clock -/

/-- The local input of an order and the far side that takes it do not give the call up, and fail
only in a way that forwarding outlives. -/
def Order.Harmless (order : Order) (sink : Sink) : Prop :=
  ∀ tape, order.stdin = some tape → (Copy.start tape sink).Harmless

/-- The server only sends and pauses until the session ends, and pauses for less time in all than
the order allows. -/
structure Order.Spares (order : Order) (frames : List Frame) : Prop where
  traffic : ∀ frame ∈ Frame.live frames, frame.isTraffic = true
  soon : ∀ timeout, order.timeout = some timeout →
    Frame.pauses (Frame.live frames) < timeout.nanos

section

variable {order : Order} {sink : Sink} {request : Request} {frames : List Frame}

/-- An order does the input of a session no harm if it does none to the far side. -/
theorem Order.Harmless.session (harmless : order.Harmless sink) :
    ∀ tape far, order.stdin = some tape →
      (Frame.session sink request.attached frames).stdin = some far →
      (Copy.start tape far).Harmless := by
  intro tape far given taken
  unfold Frame.session at taken
  dsimp only at taken
  split at taken
  · rw [← Option.some.inj taken]
    exact harmless tape given
  · cases taken

theorem Order.Spares.onTime (spares : order.Spares frames) (harmless : order.Harmless sink) :
    (Streaming.start order.stdin (Frame.session sink request.attached frames)).OnTime 0
      (Frame.pauses (Frame.live frames)) where
  channel := by
    have listed : ∀ channel script, some (Frame.script channel frames) = some script →
        script.Timed ∧ script.finish 0 ≤ Frame.pauses (Frame.live frames) := by
      intro channel script same
      cases same
      refine ⟨Frame.timed_script channel spares.traffic, Nat.le_of_eq ?_⟩
      rw [Frame.finish_script channel spares.traffic, Nat.zero_add]
    intro outlet
    cases outlet with
    | output => exact listed Frame.outputChannel
    | errors => exact listed Frame.errorChannel
  answers := rfl
  input := Input.harmless_start harmless.session

theorem Order.Spares.early (spares : order.Spares frames) {deadline : Deadline}
    (fixed : order.deadlineFrom 0 = some deadline) :
    Frame.pauses (Frame.live frames) < deadline.instant := by
  rcases Option.bind_eq_some_iff.mp fixed with ⟨timeout, timed, counted⟩
  rcases Option.map_eq_some_iff.mp counted with ⟨instant, added, rfl⟩
  unfold Instant.add? at added
  split at added
  · rw [← Option.some.inj added, Nat.zero_add]
    exact spares.soon timeout timed
  · cases added

end

namespace Transport

variable {sink : Sink} {order : Order} {client : Client} {network : Network} {request : Request}
  {frames : List Frame}

/-- A call that is handed the session of the frames comes to their outcome. -/
theorem callTo_outcome (valid : order.request = .ok request) (inTime : order.InTime 0)
    (wanted : network.cancelled = false)
    (met : meet sink client request network.answers = Frame.session sink request.attached frames)
    (spares : order.Spares frames) (harmless : order.Harmless sink) :
    ((callTo sink order client).run network).1 = .returned (Frame.outcome frames) := by
  have handed : sessions sink client order network.answers =
      [Frame.session sink request.attached frames] := by
    rw [sessions, valid, ← met]
  have made : ((callTo sink order client).run network).1 =
      endingOf (Schedule.complete 0
        ⟨network.cancelled, sessions sink client order network.answers⟩ none [order]) := rfl
  rw [made, wanted, handed]
  rcases Schedule.complete_over valid inTime rfl (spares.onTime harmless) (Nat.zero_le _)
    (fun deadline fixed => spares.early fixed) with ⟨glances, endedAt, calls, closed⟩
  have fed : Streaming.fed.Sustained order.stdin (Frame.session sink request.attached frames) :=
    Streaming.fed_sustained harmless.session
  have history := (Call.run_history fed glances).2
  have ended := closed.outcome history.untold
  rw [endingOf, calls, List.head?_cons, Option.bind_some, ended, Option.getD_some]

/-- What a client meets that can send its credentials to a server that agrees to a session. -/
theorem meet_of_agreed {code : Nat} {headers : AnswerHeaders} {protocol : ChannelProtocol}
    (sendable : (Handshake.authorization? client.authorization).all Client.isHeaderValue = true)
    (agreed : Handshake.verify code headers = .ok protocol) (sink : Sink) (request : Request)
    (more : List Answer) :
    meet sink client request (.reply code headers frames :: more) =
      Frame.session sink request.attached frames := by
  simp only [meet, sendable, Bool.not_true, Bool.false_eq_true, if_false, Handshake.remote, agreed]

end Transport

namespace Execution

variable {builder : Client.Builder} {resolver : Resolver (StateM Network)} {order : Order}
  {network between : Network} {client : Client} {frames : List Frame}

/-- What runs come to that are handed the session of the frames, whatever takes their input. -/
structure Demultiplexes (builder : Client.Builder) (resolver : Resolver (StateM Network))
    (order : Order) (request : Request) (network between : Network) (client : Client)
    (frames : List Frame) : Prop where
  /-- The run returns if the server ends the session in time. -/
  returns : ∀ sink, order.InTime 0 → between.cancelled = false → order.Spares frames →
    order.Harmless sink →
    Frame.Demultiplexed frames
      ((Execution.texts builder resolver (Transport.callTo sink order)).run network).1
  /-- Whenever the call is looked at, and whatever is looked at first, there is no other way for it
  to end. -/
  always : ∀ sink remote first rest ending,
    remote = Transport.meet sink client request between.answers →
    order.InTime first.moment.now → order.Calm first rest →
    (order.run remote (first :: rest)).ending? = some ending →
    (∀ failure, .inputFailed failure ∉ (order.run remote (first :: rest)).events) →
    Frame.Demultiplexed frames (ending.map .exec Output.texts)

/-- A run that is handed a session gives back what the frames of the session carry, or fails for
want of a report. -/
theorem demultiplexes {connection : Connection} {loads : List Act} {request : Request}
    {code : Nat} {headers : AnswerHeaders} {protocol : ChannelProtocol} {more : List Answer}
    (found : Found resolver network connection loads between)
    (built : Client.build builder connection = .ok client) (valid : order.request = .ok request)
    (sendable : (Handshake.authorization? client.authorization).all Client.isHeaderValue = true)
    (answered : between.answers = .reply code headers frames :: more)
    (agreed : Handshake.verify code headers = .ok protocol) :
    Demultiplexes builder resolver order request network between client frames where
  returns := by
    intro sink inTime wanted spares harmless
    obtain ⟨ending, acts, after, _, plain, ran⟩ :=
      course builder resolver (Transport.callTo sink order) network
    obtain ⟨_, own, made, rfl⟩ := ran.of_built found built
    have met : Transport.meet sink client request between.answers =
        Frame.session sink request.attached frames := by
      rw [answered, Transport.meet_of_agreed sendable agreed]
    have outcome := Transport.callTo_outcome valid inTime wanted met spares harmless
    rw [made] at outcome
    rw [plain]
    change own = _ at outcome
    rw [outcome]
    exact Frame.demultiplexed_outcome frames
  always := by
    rintro sink remote first rest ending rfl inTime calm ended unfailed
    rw [answered, Transport.meet_of_agreed sendable agreed] at ended unfailed
    have closed := Call.streamsOver_of_calm valid rfl inTime calm ended
    rw [closed.outcome unfailed] at ended
    rw [← Option.some.inj ended]
    exact Frame.demultiplexed_outcome frames

/-! ## A small world -/

/-- A cluster that lets everybody in. -/
def openCluster : Connection :=
  ⟨⟨some "http", some "cluster", "/", none⟩, "default", default, none, false, none, none,
    .kubeconfig "config"⟩

/-- Credentials that are found in the second place. -/
def outside : Resolver (StateM Network) :=
  ⟨pure (.error (.inCluster .noVariable)), pure (.ok openCluster)⟩

/-- An order to copy a local input. -/
def copying : Order :=
  ⟨.pod "default" "web", ["cat"], some (.ofSeconds 5), some (.ofScript [.data [104, 105]])⟩

/-- A far side that takes a single octet and then stops reading. -/
def reluctant : Sink :=
  ⟨.ofScript [.accept 1, .fail (.ofKind .brokenPipe)], ⟨.ofScript [], .ofScript []⟩⟩

/-- A server's report on a command that has failed. -/
def failure : Bytes :=
  Text.Utf8.encode ("\x7b\"status\":\"Failure\",\"reason\":\"NonZeroExitCode\",\"details\":" ++
    "\x7b\"causes\":[\x7b\"reason\":\"ExitCode\",\"message\":\"3\"\x7d]\x7d\x7d").toList

/-- A server that cuts a character of the output in two, and pauses in between. -/
def halting : List Frame :=
  [.message [Frame.outputChannel, 104, 195], .message [Frame.errorChannel, 33],
    .wait (.ofSeconds 2), .message [Frame.outputChannel, 169]]

/-- The server of the small world agrees to a session. -/
def agreeing : Answer :=
  .reply 101 ⟨some "websocket", some "Upgrade", true, some "v5.channel.k8s.io"⟩
    (halting ++ [.message (Frame.reportChannel :: failure), .close])

theorem ok_of_toOption {ε α : Type} {result : Except ε α} (value : α)
    (given : result.toOption = some value) : result = .ok value := by
  cases result with
  | error error => cases given
  | ok other => rw [Option.some.inj given]

/-- The run gives back both texts, although the command has failed and stopped reading its input
half way. -/
theorem halting_demultiplexed :
    ((Execution.texts (.ofFiles .empty) outside (Transport.callTo reluctant copying)).run
      ⟨false, [agreeing], []⟩).1 = .returned (.ok ("hé", "!")) := by
  have found : Found outside ⟨false, [agreeing], []⟩ openCluster [.loadInCluster, .loadKubeconfig]
      ⟨false, [agreeing], []⟩ := .kubeconfig rfl rfl
  have built : Client.build (.ofFiles .empty) openCluster = .ok ⟨openCluster, .anonymous⟩ :=
    ok_of_toOption _ (by decide +kernel)
  have proper : copying.request.toOption.isSome = true := by decide +kernel
  have inTime : copying.InTime 0 := by
    intro timeout timed
    cases timed
    decide
  have spares :
      copying.Spares (halting ++ [.message (Frame.reportChannel :: failure), .close]) := by
    refine ⟨by decide +kernel, fun timeout timed => ?_⟩
    cases timed
    decide +kernel
  have harmless : copying.Harmless reluctant := by
    intro tape given
    cases given
    refine ⟨.ofScript ?_, .ofScript ?_, by decide, .ofScript nofun, .ofScript nofun⟩
    · intro step member
      rw [List.mem_singleton.mp member]
      exact ⟨Step.noConfusion, fun _ => Step.noConfusion⟩
    · intro step member
      simp only [List.mem_cons, List.not_mem_nil, or_false] at member
      rcases member with rfl | rfl
      · exact ⟨Step.noConfusion, fun _ => Step.noConfusion⟩
      · refine ⟨Step.noConfusion, fun raised same => ?_⟩
        cases same
        rfl
  have readable : (StatusReport.parse? failure).isSome = true := by decide +kernel
  have output : Frame.text Frame.outputChannel halting = "hé" := by decide +kernel
  have errors : Frame.text Frame.errorChannel halting = "!" := by decide +kernel
  rcases Option.isSome_iff_exists.mp proper with ⟨request, given⟩
  rcases Option.isSome_iff_exists.mp readable with ⟨report, read⟩
  have run := demultiplexes found built (ok_of_toOption request given) rfl rfl
    (ok_of_toOption ChannelProtocol.v5 (by decide +kernel))
  have told := (run.returns reluctant inTime rfl spares harmless).reported halting failure [.close]
    report rfl (by decide) (by decide +kernel) read
  rw [told, output, errors]

end Execution
end PodCommand
