import PodCommand.Proofs.CommandLine.Calls
import PodCommand.Proofs.Session.Alone
import PodCommand.Proofs.Session.Capture
import PodCommand.Proofs.Text.WellFormed
import PodCommand.Proofs.Transport.Frames

namespace PodCommand

/-!
What the program prints.

The two outputs of a command are kept octet by octet until the session is over.  Then they are made
into texts, and the texts are what is written out; so the program prints what the server has sent on
a channel exactly where that is well-formed UTF-8, and something else in every other case.  Its exit
code says that the session was completed and nothing about the command.
-/

namespace Frame

/-- The channel that carries an output. -/
def channelOf : Outlet → UInt8
  | .output => outputChannel
  | .errors => errorChannel

/-- What a server sends of an output before the session is over. -/
def sent (frames : List Frame) (outlet : Outlet) : Bytes :=
  content (channelOf outlet) (live frames)

theorem bytes_session (sink : Sink) (request : Request) (frames : List Frame)
    (outlet : Outlet) :
    (((session sink request.attached frames).script outlet).getD []).bytes =
      sent frames outlet := by
  cases outlet with
  | output => exact bytes_script outputChannel frames
  | errors => exact bytes_script errorChannel frames

end Frame

namespace Transport

variable {sink : Sink} {order : Order} {client : Client} {answers : List Answer}

/-- A server whose session can report a status has agreed to the session. -/
theorem exists_reply_of_status {request : Request} {status : ExitStatus}
    (reports : (meet sink client request answers).status = some status) :
    ∃ code headers frames more, answers = .reply code headers frames :: more ∧
      meet sink client request answers = Frame.session sink request.attached frames := by
  unfold meet at reports ⊢
  split at reports
  · cases reports
  · rename_i sendable
    rw [if_neg sendable]
    cases answers with
    | nil => cases reports
    | cons answer more =>
        cases answer with
        | silence => cases reports
        | reply code headers frames =>
            refine ⟨code, headers, frames, more, rfl, ?_⟩
            simp only [Handshake.remote] at reports ⊢
            -- A refusal reports no status, whatever it is for.
            cases agreed : Handshake.verify code headers with
            | ok protocol => rfl
            | error error =>
                rw [agreed] at reports
                cases reports

/-- What a call can be handed reports a status only if it is the session of a server's frames. -/
theorem exists_frames_of_status {status : ExitStatus}
    (reports : ((sessions sink client order answers).headD Call.noRemote).status = some status) :
    ∃ code headers frames more, answers = .reply code headers frames :: more ∧
      ∃ request : Request, (sessions sink client order answers).headD Call.noRemote =
        Frame.session sink request.attached frames := by
  unfold sessions at reports ⊢
  cases checked : order.request with
  | error error =>
      -- The remote side that stands in for a missing one reports nothing.
      rw [checked] at reports
      cases reports
  | ok request =>
      rw [checked] at reports
      rcases exists_reply_of_status reports with ⟨code, headers, frames, more, answered, met⟩
      exact ⟨code, headers, frames, more, answered, request, met⟩

/-- A call that is completed has captured what the server has sent. -/
theorem exists_sent_of_completed {network after : Network} {output : Output}
    (made : (callTo sink order client).run network = (.returned (.ok output), after)) :
    ∃ code headers frames more, network.answers = .reply code headers frames :: more ∧
      ∀ outlet, output.bytes outlet = Frame.sent frames outlet := by
  rcases callTo_alone sink order client network with ⟨first, rest, _, alone⟩
  rcases alone _ rfl with ⟨same, _⟩
  rw [made] at same
  generalize remote : (sessions sink client order network.answers).headD Call.noRemote = far at same
  have ended : (order.run far (first :: rest)).ending? = some (.returned (.ok output)) := by
    cases ended : (order.run far (first :: rest)).ending? with
    | none =>
        rw [ended] at same
        cases same
    | some ending =>
        rw [ended] at same
        exact congrArg some same.symm
  have history :=
    (Call.run_history (Streaming.capture_sustained order.stdin far) (first :: rest)).2
  rw [Call.phase_of_ending? ended] at history
  have captures := history.captures
  subst remote
  rcases exists_frames_of_status captures.status with
    ⟨code, headers, frames, more, answered, request, met⟩
  refine ⟨code, headers, frames, more, answered, fun outlet => ?_⟩
  rw [captures.chunks outlet, met, Frame.bytes_session]

end Transport

namespace Exit

/-- What the program writes to one of its own outputs. -/
def octets (exit : Exit) : Outlet → Bytes
  | .output => Text.Utf8.encode exit.stdout.toList
  | .errors => Text.Utf8.encode exit.stderr.toList

/-- Nothing but printing goes with the exit code zero, and nothing else writes to standard
output. -/
theorem printed_or_silent (exit : Exit) :
    (∃ stdout stderr, exit = .printed stdout stderr) ∨
      (∀ profile, exit.code? profile ≠ some 0) ∧ exit.octets .output = [] := by
  cases exit with
  | printed stdout stderr => exact .inl ⟨stdout, stderr, rfl⟩
  | usage | failed error | crashed | endless =>
      exact .inr ⟨fun profile => by cases profile <;> simp [code?], rfl⟩

/-- The ending of a call is printed only if the call is completed. -/
theorem completed_of_printed {own : Ending ExecError Output} {stdout stderr : String}
    (printed : ofEnding (own.map .exec Output.texts) = .printed stdout stderr) :
    ∃ output, own = .returned (.ok output) := by
  cases own with
  | returned result =>
      cases result with
      | ok output => exact ⟨output, rfl⟩
      | error error => cases printed
  | clockOverflow | endless => cases printed

theorem octets_ofEnding (output : Output) (outlet : Outlet) :
    (ofEnding ((Ending.returned (.ok output)).map .exec Output.texts)).octets outlet =
      Text.Utf8.encode (Text.Utf8.decodeLossy (output.bytes outlet)) := by
  cases outlet with
  | output => exact congrArg Text.Utf8.encode String.toList_ofList
  | errors => exact congrArg Text.Utf8.encode String.toList_ofList

end Exit

namespace CommandLine

/-- How the program ends on words, on a host and in a network, as far as it prints. -/
structure Prints (words : List String) (host : Host) (stdin : Script) (network : Network)
    (exit : Exit) : Prop where
  /-- The exit code is zero for every completed call, whatever code the command has, and otherwise
  only for who asks for help. -/
  zero_iff : ∀ profile, exit.code? profile = some 0 ↔
    demand? words = some .help ∨ ∃ order client between output after,
      Calls words host stdin network order client between ∧
        (Transport.call order client).run between = (.returned (.ok output), after)
  /-- Both outputs of a completed call are printed as texts; that changes what has been sent unless
  it is well formed. -/
  printed : ∀ order client between output after,
    Calls words host stdin network order client between →
    (Transport.call order client).run between = (.returned (.ok output), after) →
    ∃ code headers frames more, between.answers = .reply code headers frames :: more ∧
      ∀ outlet,
        exit.octets outlet =
            Text.Utf8.encode (Text.Utf8.decodeLossy (Frame.sent frames outlet)) ∧
          (exit.octets outlet = Frame.sent frames outlet ↔
            (Text.Utf8.decode? (Frame.sent frames outlet)).isSome = true)
  /-- A program that fails prints nothing to standard output. -/
  silent : ∀ profile, exit.code? profile ≠ some 0 → exit.octets .output = []

/-- The program prints what has been sent wherever it is a text. -/
theorem prints (words : List String) (host : Host) (stdin : Script) (network : Network) :
    Prints words host stdin network ((perform words host stdin).run network).1 where
  zero_iff := by
    intro profile
    constructor
    · intro zero
      rcases Exit.printed_or_silent ((perform words host stdin).run network).1 with
        ⟨stdout, stderr, printed⟩ | ⟨other, _⟩
      · rcases calls_or_unable words host stdin network with
          ⟨order, client, between, calls⟩ | usage | ⟨helped, _⟩ | ⟨error, failed⟩
        · rcases made : (Transport.call order client).run between with ⟨own, after⟩
          rw [calls.perform made] at printed
          rcases Exit.completed_of_printed printed with ⟨output, rfl⟩
          exact .inr ⟨order, client, between, output, after, calls, made⟩
        · cases usage.symm.trans printed
        · exact .inl helped
        · cases failed.symm.trans printed
      · exact absurd zero (other profile)
    · rintro (helped | ⟨order, client, between, output, after, calls, made⟩)
      · unfold perform
        rw [helped]
        cases profile <;> rfl
      · rw [calls.perform made]
        cases profile <;> rfl
  printed := by
    intro order client between output after calls made
    rcases Transport.exists_sent_of_completed made with
      ⟨code, headers, frames, more, answered, sent⟩
    refine ⟨code, headers, frames, more, answered, fun outlet => ?_⟩
    have told : Exit.octets (((perform words host stdin).run network).1) outlet =
        Text.Utf8.encode (Text.Utf8.decodeLossy (Frame.sent frames outlet)) := by
      rw [calls.perform made, ← sent outlet]
      exact Exit.octets_ofEnding output outlet
    refine ⟨told, ?_⟩
    rw [told]
    exact Text.Utf8.encode_decodeLossy_eq_iff
  silent := by
    intro profile other
    rcases Exit.printed_or_silent ((perform words host stdin).run network).1 with
      ⟨stdout, stderr, printed⟩ | ⟨_, nothing⟩
    · rw [printed] at other
      exact absurd rfl other
    · exact nothing

/-- A host with a kubeconfig for a cluster that lets everybody in. -/
def openHost : Host :=
  let kubeconfig :=
    "current-context: a\nclusters:\n- name: c\n  cluster:\n    server: http://k\n" ++
      "contexts:\n- name: a\n  context:\n    cluster: c\n"
  ⟨⟨[(["k"], .file (Text.Utf8.encode kubeconfig.toList))]⟩, [], none⟩

/-- A server that sends three octets of output, none of which but the second is a character, and
reports that the command has succeeded. -/
def binary : List Frame :=
  [.message [Frame.outputChannel, 255, 0, 254],
    .message (Frame.reportChannel ::
      Text.Utf8.encode "\x7b\"status\":\"Success\"\x7d".toList)]

/-- What is printed of them are seven octets, and the exit code is zero. -/
theorem binary_replaced :
    let headers : AnswerHeaders :=
      ⟨some "websocket", some "Upgrade", true, some "v5.channel.k8s.io"⟩
    let exit := ((perform ["--kubeconfig", "k", "web", "--", "cat"] openHost []).run
      ⟨false, [.reply 101 headers binary], []⟩).1
    exit.code? = some 0 ∧ Frame.sent binary .output = [255, 0, 254] ∧
      exit.octets .output = [239, 191, 189, 0, 239, 191, 189] := by
  decide +kernel

end CommandLine
end PodCommand
