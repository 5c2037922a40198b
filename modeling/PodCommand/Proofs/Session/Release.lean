import PodCommand.Proofs.Session.History

namespace PodCommand

/-!
What becomes of a session that the server has handed over: it is torn down once and released, and
nothing happens in the call after that.  A call that was handed none tears nothing down.
-/

namespace Event

/-- Whether an event is a step in giving a session back. -/
def isRelease : Event → Bool
  | aborted | released => true
  | _ => false

theorem isRelease_of_isStreaming {event : Event} (streaming : event.isStreaming = true) :
    event.isRelease = false := by
  cases event <;> first | rfl | cases streaming

/-- What the log says of a session that is given back. -/
def releaseLine : LogLine := ⟨.trace, "Exec session released"⟩

/-- The log says so of nothing else. -/
theorem eq_released_of_log? {target : Target} {event : Event}
    (told : event.log? target = some releaseLine) : event = .released := by
  cases event with
  | released => rfl
  | forwarded count =>
      have line := congrArg (fun line => line.text.toList.head?) (Option.some.inj told)
      simp [releaseLine, String.toList_append] at line
  | _ => simp [log?, releaseLine] at told

end Event

/-- The results of a call that has been handed a session. -/
inductive EndsWithSession : Except ExecError Output → Prop
  | ok (output : Output) : EndsWithSession (.ok output)
  | stream (failure : StreamFailure) : EndsWithSession (.error (.stream failure))
  | cancelled (reason : CancelReason) {state : SessionState}
      (late : state = .upgraded ∨ state = .streaming) :
      EndsWithSession (.error (.cancelled reason state))

/-- The results of a call that has been handed none. -/
inductive EndsWithoutSession : Except ExecError Output → Prop
  | rejected (error : RequestError) : EndsWithoutSession (.error (.rejected error))
  | transport (url cause : String) : EndsWithoutSession (.error (.transport url cause))
  | cancelled (reason : CancelReason) :
      EndsWithoutSession (.error (.cancelled reason .requestBuilt))

namespace Stage

/-- Whether a session has been handed over. -/
def hasSession : Stage → Bool
  | requested | asked => false
  | opened | entered | taken _ _ => true

theorem opened_mem_events_iff (stage : Stage) (request : Request) :
    .opened ∈ stage.events request ↔ stage.hasSession = true := by
  cases stage with
  | taken streamed own => simp [events, hasSession]
  | _ => simp [events, hasSession]

/-- Nothing is given back while a call is under way. -/
theorem events_isRelease (stage : Stage) (request : Request) :
    ∀ event ∈ stage.events request, event.isRelease = false := by
  intro event member
  cases stage with
  | taken streamed own =>
      rcases List.mem_append.mp member with before | within
      · simp only [List.mem_cons, List.not_mem_nil, or_false] at before
        rcases before with rfl | rfl | rfl | rfl | rfl | rfl | rfl | rfl | rfl <;> rfl
      · exact Event.isRelease_of_isStreaming (own event within)
  | _ =>
      simp only [events, List.mem_cons, List.not_mem_nil, or_false] at member
      rcases member with rfl | rfl | rfl | rfl | rfl | rfl <;> rfl

end Stage

namespace History

variable {order : Order} {remote : Remote} {promise : Streaming.Promise} {state : SessionState}
  {phase : Phase} {events : List Event}

/-- A call that has not returned has given nothing back. -/
theorem isRelease_of_not_returned (history : History order remote promise state phase events)
    (going : ∀ result, phase ≠ .ended (.returned result)) :
    ∀ event ∈ events, event.isRelease = false := by
  cases history with
  | fresh | overflowed => exact fun _ member => absurd member List.not_mem_nil
  | @underWay request valid stage phase fits => exact stage.events_isRelease request
  | _ => exact absurd rfl (going _)

/-- The two ways to return: with a session that is given back last, or without one. -/
theorem returned_cases {result : Except ExecError Output}
    (history : History order remote promise state (.ended (.returned result)) events) :
    (EndsWithSession result ∧ ∃ before, events = before ++ [.aborted, .released] ∧
      .opened ∈ before ∧ ∀ event ∈ before, event.isRelease = false) ∨
    (EndsWithoutSession result ∧ .opened ∉ events ∧
      ∀ event ∈ events, event.isRelease = false) := by
  -- What a call tells on its way out comes between its stage and the release.
  have last : ∀ (stage : Stage) (request : Request) (told : List Event),
      stage.hasSession = true → (∀ event ∈ told, event.isRelease = false) →
      ∃ before, stage.events request ++ (told ++ [.aborted, .released]) =
          before ++ [.aborted, .released] ∧
        .opened ∈ before ∧ ∀ event ∈ before, event.isRelease = false := by
    intro stage request told session quiet
    refine ⟨stage.events request ++ told, (List.append_assoc ..).symm, ?_, ?_⟩
    · exact List.mem_append_left told ((stage.opened_mem_events_iff request).mpr session)
    · intro event member
      exact (List.mem_append.mp member).elim (stage.events_isRelease request event) (quiet event)
  have never : ∀ (stage : Stage) (request : Request) (told : List Event),
      stage.hasSession = false → .opened ∉ told → (∀ event ∈ told, event.isRelease = false) →
      .opened ∉ stage.events request ++ told ∧
        ∀ event ∈ stage.events request ++ told, event.isRelease = false := by
    intro stage request told none absent quiet
    refine ⟨?_, ?_⟩
    · rw [List.mem_append, stage.opened_mem_events_iff, none, not_or]
      exact ⟨Bool.false_ne_true, absent⟩
    · intro event member
      exact (List.mem_append.mp member).elim (stage.events_isRelease request event) (quiet event)
  cases history with
  | @rejected error refused =>
      exact Or.inr ⟨.rejected error, by simp, by simp [Event.isRelease]⟩
  | underWay valid fits => cases fits
  | @cancelled request valid stage phase fits reason wish =>
      cases stage with
      | requested | asked =>
          exact Or.inr ⟨.cancelled reason, never _ request _ rfl (by simp [Stage.cancellation])
            (by simp [Stage.cancellation, Event.isRelease])⟩
      | opened =>
          exact Or.inl ⟨.cancelled reason (Or.inl rfl),
            last .opened request [.advanced .upgraded .failed] rfl (by simp [Event.isRelease])⟩
      | entered =>
          exact Or.inl ⟨.cancelled reason (Or.inr rfl),
            last .entered request [.advanced .streaming .failed, .cancelled reason] rfl
              (by simp [Event.isRelease])⟩
      | taken streamed own =>
          exact Or.inl ⟨.cancelled reason (Or.inr rfl),
            last (.taken streamed own) request [.advanced .streaming .failed, .cancelled reason] rfl
              (by simp [Event.isRelease])⟩
  | @refused request valid failure raised =>
      exact Or.inr ⟨.transport _ _,
        never .asked request _ rfl (by simp) (by simp [Event.isRelease])⟩
  | @completed request valid streamed own output agreed kept =>
      exact Or.inl ⟨.ok output, last (.taken streamed own) request
        [.advanced .streaming .completed,
          .finished output.stdout.length output.stderr.length output.exitCode] rfl
        (by simp [Event.isRelease])⟩
  | @broken request valid streamed own failure agreed kept =>
      exact Or.inl ⟨.stream failure, last (.taken streamed own) request
        [.advanced .streaming .failed, .failed (.stream failure)] rfl (by simp [Event.isRelease])⟩

end History

namespace Event

/-- The log of events that give nothing back does not tell of a release. -/
theorem releaseLine_not_mem {target : Target} {events : List Event}
    (quiet : ∀ event ∈ events, event.isRelease = false) :
    releaseLine ∉ events.filterMap (log? target) := by
  intro member
  rcases List.mem_filterMap.mp member with ⟨event, within, told⟩
  have none := quiet event within
  rw [eq_released_of_log? told] at none
  cases none

/-- Events that give nothing back do not tear anything down. -/
theorem aborted_not_mem {events : List Event}
    (quiet : ∀ event ∈ events, event.isRelease = false) : .aborted ∉ events := by
  intro member
  cases quiet .aborted member

end Event

/-- A call that returns has torn its session down once, after everything else, and its log ends with
the release; a call that was handed no session has torn nothing down and logs no release.  Until a
call returns nothing is torn down. -/
theorem released_last (order : Order) (remote : Remote) (glances : List Glance) :
    ((∀ result, (order.run remote glances).ending? ≠ some (.returned result)) →
      ∀ event ∈ (order.run remote glances).events, event.isRelease = false) ∧
    ∀ result, (order.run remote glances).ending? = some (.returned result) →
      (.opened ∈ (order.run remote glances).events →
        EndsWithSession result ∧
        (order.run remote glances).events.count .aborted = 1 ∧
        (∃ before, (order.run remote glances).events = before ++ [.aborted, .released] ∧
          ∀ event ∈ before, event.isRelease = false) ∧
        ∃ lines, (order.run remote glances).log = lines ++ [Event.releaseLine] ∧
          Event.releaseLine ∉ lines) ∧
      (.opened ∉ (order.run remote glances).events →
        EndsWithoutSession result ∧
        (∀ event ∈ (order.run remote glances).events, event.isRelease = false) ∧
        Event.releaseLine ∉ (order.run remote glances).log) := by
  have history := (Call.run_history (Streaming.onlyStreams_sustained order.stdin remote) glances).2
  refine ⟨fun going => ?_, fun result returned => ?_⟩
  · refine history.isRelease_of_not_returned fun result ended => going result ?_
    rw [Call.ending?, ended]
  · rw [Call.phase_of_ending? returned] at history
    rcases history.returned_cases with ⟨ends, before, shape, handed, quiet⟩ | ⟨ends, absent, quiet⟩
    · refine ⟨fun _ => ⟨ends, ?_, ⟨before, shape, quiet⟩, ?_⟩, fun absent => ?_⟩
      · rw [shape, List.count_append, List.count_eq_zero.mpr (Event.aborted_not_mem quiet)]
        rfl
      · refine ⟨before.filterMap (Event.log? (order.run remote glances).order.target), ?_,
          Event.releaseLine_not_mem quiet⟩
        rw [Call.log, shape, List.filterMap_append]
        rfl
      · rw [shape] at absent
        exact absurd (List.mem_append_left _ handed) absent
    · exact ⟨fun handed => absurd handed absent,
        fun _ => ⟨ends, quiet, Event.releaseLine_not_mem quiet⟩⟩

/-- A session that is cut off by the deadline is released as one that is read to its end. -/
theorem listing_released :
    ∀ last ∈ [Glance.calm 0, Glance.calm 5000000000], ∃ lines,
      (Order.listing.run .prompt (List.replicate 4 (.calm 0) ++ [last])).log =
        lines ++ [Event.releaseLine] ∧ Event.releaseLine ∉ lines := by
  have finished := released_last .listing .prompt (List.replicate 4 (.calm 0) ++ [.calm 0])
  have cutOff := released_last .listing .prompt (List.replicate 4 (.calm 0) ++ [.calm 5000000000])
  intro last member
  simp only [List.mem_cons, List.not_mem_nil, or_false] at member
  rcases member with rfl | rfl
  · exact ((finished.2 (.ok ⟨[97, 98], [33], .exited 0⟩) rfl).1 (by decide +kernel)).2.2.2
  · exact ((cutOff.2 (.error (.cancelled (.deadline (.ofSeconds 5)) .streaming)) rfl).1
      (by decide +kernel)).2.2.2

end PodCommand
