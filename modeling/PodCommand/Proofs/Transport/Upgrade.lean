import PodCommand.Proofs.Request.Acceptance
import PodCommand.Proofs.Session.Alone
import PodCommand.Proofs.Session.Lifecycle
import PodCommand.Proofs.Session.Settling
import PodCommand.Proofs.Session.Transcript
import PodCommand.Transport

namespace PodCommand

/-!
What is sent for a session is what was built, and input that is given has somewhere to go.

The line that a client sends is put together anew from the parts of a request.  For a request that
was built these parts give the URL once more, so nothing is refused the second time, and what is
logged or blamed is what was sent.  A call is a run against the session that its request asks for,
and makes a connection exactly if the session was asked for and there is something to connect to.
That session has an input channel exactly if the request attaches the input, which it does exactly
for a call that has local input; so forwarding never ends for want of a channel, and where it has
ended, that is told.
-/

/-! ## The line that is sent -/

namespace Request

variable {target : Target} {command : List String} {stdin : Bool} {request : Request}

theorem sentUrl_of_build (built : build target command stdin = .ok request) :
    request.sentUrl = request.url := by
  rcases of_build built with ⟨name, _, rfl⟩
  rfl

theorem attached_of_build (built : build target command stdin = .ok request) :
    request.attached.stdin = stdin := by
  rcases of_build built with ⟨name, _, rfl⟩
  rfl

/-- Putting the line of a request together once more is not refused. -/
theorem assemble_of_build (built : build target command stdin = .ok request) :
    assemble (podsPath request.ns) request.name request.command request.attached =
      .ok request.url := by
  have met : ∀ check ∈ checks target command, check.met := fun check member =>
    ((build_judged target command stdin).ok_iff.mp built).1 check
      (List.mem_append_left _ member)
  have assembled := assemble_of_met stdin met
  rw [built] at assembled
  rcases of_build built with ⟨name, passed, rfl⟩
  have named := (Target.validate_eq_ok_iff.mp passed).2.2.1
  rwa [named] at assembled

end Request

theorem Handshake.requestLine_of_build {target : Target} {command : List String} {stdin : Bool}
    {request : Request} (built : Request.build target command stdin = .ok request)
    (client : Client) :
    requestLine client request =
      Request.method ++ " " ++ basePath client.connection.url ++ request.url ++ " HTTP/1.1" := by
  rw [requestLine, Request.sentUrl_of_build built]

theorem Event.any_isUpgradeStart_iff {events : List Event} :
    events.any isUpgradeStart = true ↔ ∃ url, .upgradeStarted url ∈ events := by
  rw [List.any_eq_true]
  constructor
  · rintro ⟨event, member, started⟩
    cases event with
    | upgradeStarted url => exact ⟨url, member⟩
    | _ => cases started
  · rintro ⟨url, member⟩
    exact ⟨_, member, rfl⟩

namespace Transport

variable {order : Order} {request : Request}

/-- What there is to a connection that a call makes. -/
theorem contact?_eq_some_iff {client : Client} {answers : List Answer} {call : Call}
    {contact : Contact} (valid : call.order.request = .ok request) :
    contact? client answers call = some contact ↔
      (∃ url, .upgradeStarted url ∈ call.events) ∧
        (Handshake.authorization? client.authorization).all Client.isHeaderValue = true ∧
        ∃ answer, answers.head? = some answer ∧
          contact = ⟨Handshake.requestLine client request,
            Handshake.authorization? client.authorization, Handshake.protocol? answer,
            call.events⟩ := by
  rw [← Event.any_isUpgradeStart_iff]
  unfold contact?
  simp only [valid]
  cases answers.head? with
  | none =>
      constructor
      · intro none
        cases none
      · rintro ⟨_, _, answer, none, _⟩
        cases none
  | some answer =>
      simp only [Option.bind_eq_bind, Option.bind_some]
      split
      · rename_i asked
        rw [Bool.and_eq_true] at asked
        constructor
        · rintro ⟨⟩
          exact ⟨asked.1, asked.2, answer, rfl, rfl⟩
        · rintro ⟨_, _, _, ⟨⟩, rfl⟩
          rfl
      · rename_i refused
        constructor
        · intro none
          cases none
        · rintro ⟨started, sendable, _⟩
          exact absurd (Bool.and_eq_true_iff.mpr ⟨started, sendable⟩) refused

end Transport

/-! ## The input channel -/

namespace Input

/-- Both sides of the input are there if any is to be forwarded, and otherwise none is; where they
are there, forwarding ends only with its outcome told. -/
structure Attached (given : Bool) (events : List Event) (input : Input) : Prop where
  channel : input.attached = given
  copying : input.copying.isSome = given
  ended : given = true → input.forwarding = false →
    ∃ event ∈ events, event.outcome?.isSome = true

variable {given : Bool} {before : List Event} {input : Input}

theorem Attached.append (attached : input.Attached given before) (more : List Event) :
    input.Attached given (before ++ more) where
  channel := attached.channel
  copying := attached.copying
  ended := by
    intro asked stopped
    rcases attached.ended asked stopped with ⟨event, member, tells⟩
    exact ⟨event, List.mem_append_left _ member, tells⟩

/-- An attempt that has come to an end is settled with its outcome told. -/
theorem outcome?_of_settle {outcome : Copy.Outcome} {wish : Bool} {events : List Event}
    (settled : (settle input outcome wish events).outcome.isPending = false) :
    ∃ event ∈ (settle input outcome wish events).events, event.outcome?.isSome = true := by
  cases outcome with
  | pending => cases settled
  | done =>
      exact ⟨_, List.mem_append_right _ (List.mem_cons_of_mem _ List.mem_cons_self), rfl⟩
  | failed failure =>
      unfold settle
      dsimp only
      split
      · exact ⟨_, List.mem_append_right _ List.mem_cons_self, rfl⟩
      · exact ⟨_, List.mem_append_right _ List.mem_cons_self, rfl⟩

theorem settle_sides (outcome : Copy.Outcome) (wish : Bool) (events : List Event) :
    (settle input outcome wish events).input.attached = input.attached ∧
      (settle input outcome wish events).input.copying = input.copying := by
  unfold settle
  split
  · exact ⟨rfl, rfl⟩
  · exact ⟨rfl, rfl⟩
  · split <;> exact ⟨rfl, rfl⟩

/-- A look neither takes a side of the input away nor adds one. -/
theorem look_sides (now : Instant) (cancelled : Bool) (input : Input) :
    (input.look now cancelled).input.attached = input.attached ∧
      (input.look now cancelled).input.copying.isSome = input.copying.isSome := by
  unfold look
  split
  · rename_i copying copied
    dsimp only
    rw [(settle_sides _ _ _).1, (settle_sides _ _ _).2, copied]
    exact ⟨rfl, rfl⟩
  · exact ⟨rfl, rfl⟩

/-- The step lemma: a look at attached input leaves it attached. -/
theorem Attached.look (attached : input.Attached given before)
    (forwarding : input.forwarding = true) (now : Instant) (cancelled : Bool) :
    (input.look now cancelled).input.Attached given
      (before ++ (input.look now cancelled).events) where
  channel := (look_sides now cancelled input).1.trans attached.channel
  copying := (look_sides now cancelled input).2.trans attached.copying
  ended := by
    intro asked stopped
    have ends := look_forwarding now cancelled input
    rw [stopped, forwarding, Bool.true_and] at ends
    rcases look_cases now cancelled input with
      ⟨copying, attempted, wish, events, _, settled, _, _⟩ | ⟨missing, _⟩
    · rw [settled] at ends ⊢
      rcases outcome?_of_settle ends.symm with ⟨event, member, tells⟩
      exact ⟨event, List.mem_append_right _ member, tells⟩
    · -- No side is missing where input is to be forwarded.
      have there := attached.copying.trans asked
      rw [missing] at there
      cases there

end Input

namespace Streaming

/-- The input stays attached as long as the streams are open. -/
def attached (given : Bool) : Promise where
  pending := fun events session => session.input.Attached given events
  finished := fun _ _ => True
  failed := fun _ _ => True

theorem keeps_attached {given : Bool} {before : List Event} {look : Look}
    (attached : look.session.input.Attached given (before ++ look.events)) :
    look.Keeps (Streaming.attached given) before := by
  unfold Look.Keeps
  cases look.progress with
  | pending => exact attached
  | finished => exact trivial
  | failed => exact trivial

theorem attached_sustained {source : Option Tape} {remote : Remote}
    (channel : remote.stdin.isSome = source.isSome) :
    (attached source.isSome).Sustained source remote where
  start := by
    refine ⟨channel, ?_, fun _ => Bool.noConfusion⟩
    unfold Streaming.start Input.start
    cases source with
    | none => rfl
    | some tape => exact (Option.isSome_map ..).trans channel
  look := by
    intro choices now cancelled before session kept
    apply look_keeps
    case reads =>
      intro outlet now cancelled before session kept
      refine keeps_attached ?_
      rw [lookChannel_input]
      exact kept.append _
    case asks =>
      intro now cancelled before session kept _ _
      refine keeps_attached ?_
      rw [askStatus_input]
      exact kept.append _
    case feeds =>
      intro now cancelled before session kept forwarding
      have later := kept.look forwarding now cancelled
      refine keeps_attached ?_
      rw [lookInput_events]
      unfold lookInput
      dsimp only
      split <;> exact later
    case kept => exact kept

end Streaming

section

variable {order : Order} {remote : Remote} {promise : Streaming.Promise} {state : SessionState}
  {phase : Phase} {events : List Event}

/-- A session that has been handed over is that of a server that agrees. -/
theorem History.handed {current : Remote}
    (history : History order remote promise state phase events)
    (reached : phase = .opened current ∨ phase = .entering current) :
    remote.upgrade.ComesTo none ∧ current.stdin = remote.stdin := by
  rcases reached with rfl | rfl
  · cases history with
    | underWay valid fits =>
        cases fits with
        | opened streams agreed =>
            rw [streams]
            exact ⟨agreed, rfl⟩
  · cases history with
    | underWay valid fits =>
        cases fits with
        | entering streams agreed =>
            rw [streams]
            exact ⟨agreed, rfl⟩

theorem History.agreed_of_streaming {session : Streaming}
    (history : History order remote promise state (.streaming session) events) :
    remote.upgrade.ComesTo none := by
  cases history with
  | underWay valid fits =>
      cases fits with
      | streaming agreed kept => exact agreed

end

namespace Transport

variable {sink : Sink} {client : Client} {answers : List Answer} {request : Request}

/-- A session that a server hands out has an input channel exactly if the request attaches one. -/
theorem stdin_of_meet (agreed : (meet sink client request answers).upgrade.ComesTo none) :
    (meet sink client request answers).stdin.isSome = request.attached.stdin := by
  unfold meet at agreed ⊢
  split at agreed
  · cases agreed with
    | pause pause _ => cases pause
  · rename_i sendable
    rw [if_neg sendable]
    cases answers with
    | nil =>
        cases agreed with
        | pause pause _ => cases pause
    | cons answer rest =>
        cases answer with
        | silence =>
            cases agreed with
            | pause pause _ => cases pause
        | reply code headers frames =>
            dsimp only [Handshake.remote] at agreed ⊢
            cases verified : Handshake.verify code headers with
            | ok protocol =>
                unfold Frame.session
                cases request.attached.stdin <;> rfl
            | error error =>
                rw [verified] at agreed
                cases agreed with
                | pause pause _ => cases pause

/-- What a run has come to has both sides of the input exactly if the order has local input: the
session that is handed over, and later its streams. -/
structure Takes (given : Bool) (call : Call) : Prop where
  channel : ∀ remote, call.phase = .opened remote ∨ call.phase = .entering remote →
    remote.stdin.isSome = given
  streams : ∀ session, call.phase = .streaming session →
    session.input.Attached given call.streamed

theorem takes_of_run {order : Order} (valid : order.request = .ok request) (sink : Sink)
    (client : Client) (answers : List Answer) (glances : List Glance) :
    Takes order.stdin.isSome (order.run (meet sink client request answers) glances) where
  channel := by
    intro remote reached
    have history := Call.run_hasHistory order (meet sink client request answers) glances
    rcases history.2.handed reached with ⟨agreed, same⟩
    rw [same, stdin_of_meet agreed, Request.attached_of_build valid]
  streams := by
    intro session streaming
    have history := Call.run_hasHistory order (meet sink client request answers) glances
    rw [Call.HasHistory, streaming] at history
    have channel := stdin_of_meet history.2.agreed_of_streaming
    rw [Request.attached_of_build valid] at channel
    exact Call.run_pending (Streaming.attached_sustained channel) streaming

/-- What a call makes of a network: it is a run against the session that its request asks for, and
what the server sees of it is told by the run. -/
structure Made (sink : Sink) (order : Order) (client : Client) (request : Request)
    (network : Network) (call : Call) (own : List Contact) : Prop where
  run : ∃ first rest, first.moment.now = 0 ∧
    call = order.run (meet sink client request network.answers) (first :: rest)
  result : ((callTo sink order client).run network).1 = call.ending?.getD .endless
  contacts : ((callTo sink order client).run network).2.contacts = own ++ network.contacts
  once : own.length ≤ 1
  /-- A connection is made exactly if the session has been asked for, the user's token can be sent,
  and the server answers. -/
  contacted : own ≠ [] ↔ .upgradeStarted request.url ∈ call.events ∧
    (Handshake.authorization? client.authorization).all Client.isHeaderValue = true ∧
    network.answers ≠ []
  line : ∀ contact ∈ own, contact.requestLine = Handshake.requestLine client request ∧
    contact.events = call.events

end Transport

/-! ## What is told -/

namespace Event

/-- The URL that an event tells. -/
def url? : Event → Option String
  | requestReady url | upgradeStarted url | upgradeFailed url _ => some url
  | _ => none

theorem url?_of_isStreaming {event : Event} (streaming : event.isStreaming = true) :
    event.url? = none := by
  cases event <;> first | rfl | cases streaming

end Event

theorem Stage.mem_urls {stage : Stage} {request : Request} {url : String}
    (told : url ∈ (stage.events request).filterMap Event.url?) : url = request.url := by
  cases stage with
  | taken streamed own =>
      have none : streamed.filterMap Event.url? = [] :=
        List.filterMap_eq_nil_iff.mpr fun event member =>
          Event.url?_of_isStreaming (own event member)
      rw [events, List.filterMap_append, none, List.append_nil] at told
      simpa [Event.url?, eq_comm] using told
  | _ => simpa [events, Event.url?, eq_comm] using told

/-- A call tells no URL but that of its request. -/
theorem History.mem_urls {order : Order} {remote : Remote} {promise : Streaming.Promise}
    {state : SessionState} {phase : Phase} {events : List Event} {request : Request} {url : String}
    (history : History order remote promise state phase events)
    (valid : order.request = .ok request) (told : url ∈ events.filterMap Event.url?) :
    url = request.url := by
  have silent : ∀ {stage : Stage} {own : Request} {more : List Event}, order.request = .ok own →
      more.filterMap Event.url? = [] →
      url ∈ (stage.events own ++ more).filterMap Event.url? → url = request.url := by
    intro stage own more valid' none told
    rw [List.filterMap_append, none, List.append_nil] at told
    rw [valid] at valid'
    cases valid'
    exact stage.mem_urls told
  cases history with
  | fresh | overflowed | rejected => simp [Event.url?] at told
  | @underWay own valid' stage phase fits =>
      rw [← List.append_nil (stage.events own)] at told
      exact silent valid' rfl told
  | @cancelled own valid' stage phase fits reason wish =>
      exact silent valid' (by cases stage <;> rfl) told
  | refused valid' raised =>
      rw [valid] at valid'
      cases valid'
      simpa [Stage.events, Event.url?, eq_comm] using told
  | completed valid' agreed kept => exact silent valid' rfl told
  | broken valid' agreed kept => exact silent valid' rfl told

/-! ## The whole -/

theorem Transport.exists_made {order : Order} {request : Request}
    (valid : order.request = .ok request) (sink : Sink) (client : Client) (network : Network) :
    ∃ call contacts, Made sink order client request network call contacts := by
  rcases callTo_alone sink order client network with ⟨first, rest, begun, made⟩
  have met : (sessions sink client order network.answers).headD Call.noRemote =
      meet sink client request network.answers := by
    rw [sessions, valid]
    rfl
  rw [met] at made
  rcases made _ rfl with ⟨result, contacts⟩
  have history := Call.run_hasHistory order (meet sink client request network.answers)
    (first :: rest)
  have proper : (order.run (meet sink client request network.answers)
      (first :: rest)).order.request = .ok request := by
    rw [history.1, valid]
  have told : ∀ url, .upgradeStarted url ∈ (order.run
      (meet sink client request network.answers) (first :: rest)).events → url = request.url :=
    fun url member => history.2.mem_urls valid (List.mem_filterMap.mpr ⟨_, member, rfl⟩)
  refine ⟨_, _, ⟨first, rest, begun, rfl⟩, result, contacts, Option.length_toList_le, ?_, ?_⟩
  · rw [Ne, Option.toList_eq_nil_iff, ← Ne, Option.ne_none_iff_exists']
    constructor
    · rintro ⟨contact, some⟩
      rcases (contact?_eq_some_iff proper).mp some with
        ⟨⟨url, started⟩, sendable, answer, first, _⟩
      refine ⟨told url started ▸ started, sendable, ?_⟩
      exact List.ne_nil_of_mem (List.mem_of_mem_head? first)
    · rintro ⟨started, sendable, answered⟩
      rcases List.exists_cons_of_ne_nil answered with ⟨answer, later, answers⟩
      exact ⟨_, (contact?_eq_some_iff proper).mpr
        ⟨⟨_, started⟩, sendable, answer, by rw [answers]; rfl, rfl⟩⟩
  · intro contact member
    rcases (contact?_eq_some_iff proper).mp (Option.mem_toList.mp member) with
      ⟨_, _, answer, _, rfl⟩
    exact ⟨rfl, rfl⟩

/-- What a client sends for a request, and what its calls do with local input, is what the request
was built for. -/
structure Request.Sent (request : Request) (stdin : Bool) : Prop where
  /-- The URL is put together again from the parts, and not refused. -/
  assembled : assemble (Client.podsPath request.ns) request.name request.command
    request.attached = .ok request.url
  line : ∀ client : Client, Handshake.requestLine client request =
    Request.method ++ " " ++ Handshake.basePath client.connection.url ++ request.url ++ " HTTP/1.1"
  input : request.attached.stdin = stdin
  /-- A call of the request makes one connection at most, and with the line of the request. -/
  made : ∀ (sink : Sink) (order : Order) (client : Client) (network : Network),
    order.request = .ok request →
    ∃ call contacts, Transport.Made sink order client request network call contacts
  /-- No other URL is told or blamed. -/
  told : ∀ (order : Order) (remote : Remote) (glances : List Glance), order.request = .ok request →
    (∀ url ∈ (order.run remote glances).events.filterMap Event.url?, url = request.url) ∧
      ∀ url cause, (order.run remote glances).ending? =
        some (.returned (.error (.transport url cause))) → url = request.url
  /-- Whatever the server answers, and at every moment, the session of a call has a channel for
  input exactly if the call has local input. -/
  takes : ∀ (sink : Sink) (order : Order) (client : Client) (answers : List Answer)
    (glances : List Glance), order.request = .ok request →
    order.stdin.isSome = stdin ∧
      Transport.Takes stdin (order.run (Transport.meet sink client request answers) glances)

theorem Request.sent_as_built {target : Target} {command : List String} {stdin : Bool}
    {request : Request} (built : build target command stdin = .ok request) :
    request.Sent stdin where
  assembled := assemble_of_build built
  line := Handshake.requestLine_of_build built
  input := attached_of_build built
  made sink order client network valid := Transport.exists_made valid sink client network
  told order remote glances valid := by
    have history := (Call.run_hasHistory order remote glances).2
    refine ⟨fun url told => history.mem_urls valid told, fun url cause ended => ?_⟩
    rw [Call.phase_of_ending? ended] at history
    rcases (history.concludes.transport url cause rfl).2 with ⟨own, _, valid', same, _⟩
    rw [valid] at valid'
    cases valid'
    exact same
  takes sink order client answers glances valid := by
    have given : order.stdin.isSome = stdin :=
      (attached_of_build valid).symm.trans (attached_of_build built)
    refine ⟨given, ?_⟩
    rw [← given]
    exact Transport.takes_of_run valid sink client answers glances

/-- A command with input in a container of a pod that is called by the shortest of its kind's
names. -/
theorem Request.copy_sent :
    ∃ request, build ⟨"default", "po", some "web-0", some "app"⟩ ["tee", "/tmp/é &"] true =
        .ok request ∧ request.Sent true := by
  have accepted : (build ⟨"default", "po", some "web-0", some "app"⟩ ["tee", "/tmp/é &"]
      true).toOption.isSome = true := by
    decide +kernel
  cases built : build ⟨"default", "po", some "web-0", some "app"⟩ ["tee", "/tmp/é &"] true with
  | ok request => exact ⟨request, rfl, sent_as_built built⟩
  | error refused =>
      rw [built] at accepted
      cases accepted

end PodCommand
