import PodCommand.Proofs.Session.Settling
import PodCommand.Proofs.Session.Streams
import PodCommand.Session.Call

namespace PodCommand

/-!
Looking at open streams as a loop.

The input and the output side are two things to wait for.  A turn polls those of them that are still
to be waited for, in either order, up to the first that is ready.  An output that is ready ends the
loop, and so does an input that has failed; after an input that is done the loop goes on without it.
`loop_look` says that this is what a look at the streams does, so that a look can be told by its
polls; and `Orderly` says which polls can follow upon each other.
-/

/-- The two sides of a session. -/
inductive Side
  | input
  | output
  deriving DecidableEq, Repr

/-- A poll of a side, with what it comes to. -/
inductive Poll
  | input (outcome : Copy.Outcome)
  | output (progress : Streaming.Progress)
  deriving DecidableEq, Repr

namespace Poll

def side : Poll → Side
  | .input _ => .input
  | .output _ => .output

/-- Whether there is nothing left to wait for on the side. -/
def isReady : Poll → Bool
  | .input .pending | .output .pending => false
  | _ => true

/-- How far a poll alone brings a session. -/
def progress : Poll → Streaming.Progress
  | .input (.failed failure) => .failed failure
  | .input _ => .pending
  | .output progress => progress

end Poll

/-! ## Which polls can follow upon each other -/

/-- Polls lead from what is open of a session to what is open after them: the output with the input,
the output without it, or nothing. -/
inductive Orderly : Option Bool → List Poll → Option Bool → Prop
  | nil {state : Option Bool} : Orderly state [] state
  | inputPending {rest : List Poll} {left : Option Bool} (later : Orderly (some true) rest left) :
      Orderly (some true) (.input .pending :: rest) left
  | inputDone {rest : List Poll} {left : Option Bool} (later : Orderly (some false) rest left) :
      Orderly (some true) (.input .done :: rest) left
  | inputFailed {failure : StreamFailure} (unbroken : failure.kind ≠ .brokenPipe) :
      Orderly (some true) [.input (.failed failure)] none
  | outputPending {feeding : Bool} {rest : List Poll} {left : Option Bool}
      (later : Orderly (some feeding) rest left) :
      Orderly (some feeding) (.output .pending :: rest) left
  | outputReady {feeding : Bool} {progress : Streaming.Progress} (ready : progress ≠ .pending) :
      Orderly (some feeding) [.output progress] none

/-- What a poll of the input leaves open. -/
def leftBy : Copy.Outcome → Option Bool
  | .pending => some true
  | .done => some false
  | .failed _ => none

/-- How many sides are open. -/
def openSides : Option Bool → Nat
  | none => 0
  | some false => 1
  | some true => 2

namespace Orderly

variable {state between left : Option Bool} {first second polls : List Poll}

theorem append (orderly : Orderly state first between) (later : Orderly between second left) :
    Orderly state (first ++ second) left := by
  induction orderly with
  | nil => exact later
  | inputPending _ ih => exact .inputPending (ih later)
  | inputDone _ ih => exact .inputDone (ih later)
  | outputPending _ ih => exact .outputPending (ih later)
  | inputFailed unbroken =>
      cases later
      exact .inputFailed unbroken
  | outputReady ready =>
      cases later
      exact .outputReady ready

/-- Where nothing is open nothing is polled. -/
theorem of_closed (orderly : Orderly none polls left) : polls = [] ∧ left = none := by
  cases orderly
  exact ⟨rfl, rfl⟩

/-- Polls that begin without the input do not poll it. -/
theorem output_of_mem (orderly : Orderly state polls left) (unfed : state ≠ some true) :
    ∀ poll ∈ polls, poll.side = .output := by
  induction orderly with
  | nil => exact fun _ member => absurd member List.not_mem_nil
  | inputPending | inputDone | inputFailed => exact absurd rfl unfed
  | outputPending _ ih =>
      intro poll member
      rcases List.mem_cons.mp member with rfl | later
      · rfl
      · exact ih unfed poll later
  | outputReady =>
      intro poll member
      rw [List.mem_singleton.mp member]
      rfl

/-- A last poll of the input finds it open, and says what is left. -/
theorem of_input {outcome : Copy.Outcome} (orderly : Orderly state polls left)
    (last : polls.getLast? = some (.input outcome)) :
    state = some true ∧ left = leftBy outcome := by
  induction orderly with
  | nil => cases last
  | @inputPending rest left later ih =>
      cases rest with
      | nil =>
          cases last
          cases later
          exact ⟨rfl, rfl⟩
      | cons poll rest => exact ih last
  | @inputDone rest left later ih =>
      cases rest with
      | nil =>
          cases last
          cases later
          exact ⟨rfl, rfl⟩
      | cons poll rest => cases (ih last).1
  | inputFailed =>
      cases last
      exact ⟨rfl, rfl⟩
  | @outputPending feeding rest left later ih =>
      cases rest with
      | nil => cases last
      | cons poll rest => exact ih last
  | outputReady => cases last

/-- Whatever is found ready is open before and not after. -/
theorem ready_add_openSides_le (orderly : Orderly state polls left) :
    (polls.filter Poll.isReady).length + openSides left ≤ openSides state := by
  induction orderly with
  | nil => exact Nat.le_of_eq (Nat.zero_add _)
  | inputPending _ ih | outputPending _ ih => exact ih
  | inputDone _ ih =>
      rw [List.filter_cons_of_pos rfl, List.length_cons, Nat.add_right_comm]
      exact Nat.succ_le_succ ih
  | inputFailed => exact Nat.le_succ 1
  | @outputReady feeding progress ready =>
      have one : 1 ≤ openSides (some feeding) := by
        cases feeding <;> decide
      exact Nat.le_trans (List.length_filter_le _ _) one

/-- A side that has been found ready is not polled again. -/
theorem pairwise_side (orderly : Orderly state polls left) :
    polls.Pairwise fun earlier later => earlier.isReady = true → later.side ≠ earlier.side := by
  induction orderly with
  | nil => exact .nil
  | inputPending _ ih => exact .cons (fun _ _ ready => by cases ready) ih
  | inputDone later ih =>
      refine .cons (fun poll member _ same => ?_) ih
      have output := later.output_of_mem (by simp) poll member
      cases same.symm.trans output
  | outputPending _ ih => exact .cons (fun _ _ ready => by cases ready) ih
  | inputFailed | outputReady => exact List.pairwise_singleton _ _

/-- The input fails neither because the far side has stopped reading nor after it has been done. -/
theorem of_inputFailed {failure : StreamFailure} (orderly : Orderly state polls left)
    (failed : .input (.failed failure) ∈ polls) :
    failure.kind ≠ .brokenPipe ∧ .input .done ∉ polls := by
  induction orderly with
  | nil => cases failed
  | inputPending _ ih | outputPending _ ih => simpa using ih (by simpa using failed)
  | inputDone later ih =>
      cases later.output_of_mem (by simp) _ ((List.mem_cons.mp failed).resolve_left (by simp))
  | inputFailed unbroken =>
      cases List.mem_singleton.mp failed
      exact ⟨unbroken, by simp⟩
  | outputReady => cases List.mem_singleton.mp failed

/-- The poll that ends the loop is the last. -/
theorem getLast?_of_settled {poll : Poll} (orderly : Orderly state polls left)
    (member : poll ∈ polls) (settled : poll.progress ≠ .pending) : polls.getLast? = some poll := by
  induction orderly with
  | nil => cases member
  | inputPending _ ih | inputDone _ ih | outputPending _ ih =>
      rcases List.mem_cons.mp member with rfl | later
      · exact absurd rfl settled
      · rw [List.getLast?_cons, ih later]
        rfl
  | inputFailed | outputReady =>
      rw [List.mem_singleton.mp member]
      rfl

end Orderly

namespace Streaming

/-! ## The loop -/

/-- What is looked at first in a turn. -/
structure Turn where
  inputFirst : Bool
  stderrFirst : Bool

/-- The sides that a turn may poll, in their order. -/
def sides (session : Streaming) (turn : Turn) : List Side :=
  if !session.input.forwarding then [.output]
  else if turn.inputFirst then [.input, .output]
  else [.output, .input]

theorem sides_of_inputFirst {session : Streaming} {turn : Turn}
    (fed : session.input.forwarding = true) (inputFirst : turn.inputFirst = true) :
    session.sides turn = [.input, .output] := by
  simp [sides, fed, inputFirst]

theorem sides_of_outputFirst {session : Streaming} {turn : Turn}
    (fed : session.input.forwarding = true) (outputFirst : turn.inputFirst = false) :
    session.sides turn = [.output, .input] := by
  simp [sides, fed, outputFirst]

/-- A look, with the polls that it is made of. -/
structure Polled where
  look : Look
  polls : List Poll

/-- What some polls and those after them come to. -/
def Polled.followedBy (first next : Polled) : Polled :=
  ⟨{ next.look with events := first.look.events ++ next.look.events }, first.polls ++ next.polls⟩

/-- Polls a side. -/
def poll (now : Instant) (turn : Turn) (cancelled : Bool) (session : Streaming) : Side → Polled
  | .input =>
    ⟨session.lookInput now cancelled, [.input (session.input.look now cancelled).outcome]⟩
  | .output =>
    let look := session.lookOutput now turn.stderrFirst cancelled
    ⟨look, [.output look.progress]⟩

/-- Polls sides one after the other, up to the first that is ready. -/
def pollAll (now : Instant) (turn : Turn) : List Side → Bool → Streaming → Polled
  | [], cancelled, session => ⟨⟨session, .pending, cancelled, []⟩, []⟩
  | side :: rest, cancelled, session =>
    let polled := session.poll now turn cancelled side
    if polled.polls.any Poll.isReady then polled
    else polled.followedBy (pollAll now turn rest polled.look.cancelled polled.look.session)

/-- What is open of a session after some polls. -/
def Polled.left (polled : Polled) : Option Bool :=
  match polled.look.progress with
  | .pending => some polled.look.session.input.forwarding
  | _ => none

theorem Polled.left_followedBy (first next : Polled) : (first.followedBy next).left = next.left :=
  rfl

theorem lookInput_session_input (now : Instant) (cancelled : Bool) (session : Streaming) :
    (session.lookInput now cancelled).session.input = (session.input.look now cancelled).input := by
  unfold lookInput
  dsimp only
  split <;> rfl

theorem lookInput_progress (now : Instant) (cancelled : Bool) (session : Streaming) :
    (session.lookInput now cancelled).progress =
      match (session.input.look now cancelled).outcome with
      | .failed failure => .failed failure
      | _ => .pending := by
  unfold lookInput
  dsimp only
  split <;> simp_all

theorem poll_orderly (now : Instant) (turn : Turn) (cancelled : Bool) (session : Streaming)
    (side : Side) (waits : side = .input → session.input.forwarding = true) :
    Orderly (some session.input.forwarding) (session.poll now turn cancelled side).polls
      (session.poll now turn cancelled side).left := by
  cases side with
  | input =>
      have forwarding := Input.look_forwarding now cancelled session.input
      simp only [poll, Polled.left, lookInput_progress, lookInput_session_input, waits rfl]
        at forwarding ⊢
      cases outcome : (session.input.look now cancelled).outcome with
      | pending =>
          rw [outcome] at forwarding
          simp only [forwarding]
          exact .inputPending .nil
      | done =>
          rw [outcome] at forwarding
          simp only [forwarding]
          exact .inputDone .nil
      | failed failure => exact .inputFailed (Input.kind_of_failed outcome)
  | output =>
      simp only [poll, Polled.left, lookOutput_input]
      cases (session.lookOutput now turn.stderrFirst cancelled).progress with
      | pending => exact .outputPending .nil
      | finished output => exact .outputReady Progress.noConfusion
      | failed failure => exact .outputReady Progress.noConfusion

/-- What is polled without being ready leaves open what was open. -/
theorem poll_of_not_ready {now : Instant} {turn : Turn} {cancelled : Bool} {session : Streaming}
    {side : Side}
    (waits : (session.poll now turn cancelled side).polls.any Poll.isReady = false) :
    (session.poll now turn cancelled side).look.progress = .pending ∧
      (session.poll now turn cancelled side).look.session.input.forwarding =
        session.input.forwarding := by
  cases side with
  | input =>
      have forwarding := Input.look_forwarding now cancelled session.input
      simp only [poll, lookInput_progress, lookInput_session_input] at waits forwarding ⊢
      cases outcome : (session.input.look now cancelled).outcome with
      | pending =>
          rw [outcome] at forwarding
          exact ⟨rfl, forwarding.trans (Bool.and_true _)⟩
      | done | failed =>
          rw [outcome] at waits
          cases waits
  | output =>
      have same := lookOutput_input now turn.stderrFirst cancelled session
      simp only [poll] at waits ⊢
      rw [same]
      cases progress : (session.lookOutput now turn.stderrFirst cancelled).progress with
      | pending => exact ⟨rfl, rfl⟩
      | finished | failed =>
          rw [progress] at waits
          cases waits

theorem pollAll_singleton (now : Instant) (turn : Turn) (cancelled : Bool) (session : Streaming)
    (side : Side) :
    pollAll now turn [side] cancelled session = session.poll now turn cancelled side := by
  rw [pollAll]
  cases ready : (session.poll now turn cancelled side).polls.any Poll.isReady with
  | true => rw [if_pos rfl]
  | false =>
      have pending := (poll_of_not_ready ready).1
      rw [if_neg Bool.false_ne_true, pollAll, Polled.followedBy]
      dsimp only
      rw [List.append_nil, List.append_nil, ← pending]

theorem pollAll_orderly (now : Instant) (turn : Turn) (sides : List Side) (cancelled : Bool)
    (session : Streaming) (waits : .input ∈ sides → session.input.forwarding = true) :
    Orderly (some session.input.forwarding) (pollAll now turn sides cancelled session).polls
      (pollAll now turn sides cancelled session).left := by
  induction sides generalizing cancelled session with
  | nil => exact .nil
  | cons side rest ih =>
      have first := poll_orderly now turn cancelled session side fun same =>
        waits (same ▸ List.mem_cons_self)
      rw [pollAll]
      cases ready : (session.poll now turn cancelled side).polls.any Poll.isReady with
      | true =>
          rw [if_pos rfl]
          exact first
      | false =>
          rcases poll_of_not_ready ready with ⟨pending, same⟩
          have open_ : (session.poll now turn cancelled side).left =
              some (session.poll now turn cancelled side).look.session.input.forwarding := by
            rw [Polled.left, pending]
          rw [if_neg Bool.false_ne_true, Polled.left_followedBy]
          rw [open_] at first
          exact first.append (ih _ _ fun member =>
            same.trans (waits (List.mem_cons_of_mem _ member)))

theorem forwarding_of_mem_sides {session : Streaming} {turn : Turn}
    (member : .input ∈ session.sides turn) : session.input.forwarding = true := by
  unfold sides at member
  cases forwarding : session.input.forwarding with
  | true => rfl
  | false => simp [forwarding] at member

/-- The polls of a turn lead from what is open before it to what is open after it. -/
theorem turn_orderly (now : Instant) (turn : Turn) (cancelled : Bool) (session : Streaming) :
    Orderly (some session.input.forwarding)
      (pollAll now turn (session.sides turn) cancelled session).polls
      (pollAll now turn (session.sides turn) cancelled session).left :=
  pollAll_orderly now turn (session.sides turn) cancelled session forwarding_of_mem_sides

theorem Polled.of_left {polled : Polled} {forwarding : Bool}
    (left : polled.left = some forwarding) :
    polled.look.progress = .pending ∧ polled.look.session.input.forwarding = forwarding := by
  unfold Polled.left at left
  split at left
  · rename_i pending
    exact ⟨pending, Option.some.inj left⟩
  · cases left

theorem Polled.of_left_none {polled : Polled} (left : polled.left = none) :
    polled.look.progress ≠ .pending := by
  intro pending
  rw [Polled.left, pending] at left
  cases left

/-- A turn that ends with the input done begins with it and goes on without it. -/
theorem turn_of_inputDone {now : Instant} {turn : Turn} {cancelled : Bool} {session : Streaming}
    (done : (pollAll now turn (session.sides turn) cancelled session).polls.getLast? =
      some (.input .done)) :
    session.input.forwarding = true ∧
      (pollAll now turn (session.sides turn) cancelled session).left = some false := by
  rcases (turn_orderly now turn cancelled session).of_input done with ⟨fed, left⟩
  exact ⟨Option.some.inj fed, left⟩

/-- The loop: turn after turn, as long as a turn ends with the input done. -/
def loop (now : Instant) (again turn : Turn) (cancelled : Bool) (session : Streaming) : Polled :=
  let polled := pollAll now turn (session.sides turn) cancelled session
  if polled.polls.getLast? = some (.input .done) then
    polled.followedBy (loop now again again polled.look.cancelled polled.look.session)
  else polled
termination_by if session.input.forwarding then 1 else 0
decreasing_by
  -- The input can be done only once: a turn after that has one side less to poll.
  rename_i done
  rcases turn_of_inputDone done with ⟨fed, left⟩
  rw [(Polled.of_left left).2, fed]
  decide

theorem loop_orderly (now : Instant) (again turn : Turn) (cancelled : Bool) (session : Streaming) :
    Orderly (some session.input.forwarding) (loop now again turn cancelled session).polls
      (loop now again turn cancelled session).left := by
  fun_induction loop now again turn cancelled session with
  | case1 turn cancelled session polled done ih =>
      have first := turn_orderly now turn cancelled session
      rcases Polled.of_left (turn_of_inputDone done).2 with ⟨pending, _⟩
      rw [Polled.left, pending] at first
      exact first.append ih
  | case2 turn cancelled session polled going => exact turn_orderly now turn cancelled session

/-! ## The last poll is what counts -/

/-- Polls bring a session as far as the last of them alone. -/
def Polled.Decided (polled : Polled) : Prop :=
  ∃ last, polled.polls.getLast? = some last ∧ polled.look.progress = last.progress

theorem Polled.Decided.followedBy {next : Polled} (decided : next.Decided) (first : Polled) :
    (first.followedBy next).Decided := by
  rcases decided with ⟨last, final, same⟩
  refine ⟨last, ?_, same⟩
  rw [Polled.followedBy, List.getLast?_append, final]
  rfl

theorem poll_decided (now : Instant) (turn : Turn) (cancelled : Bool) (session : Streaming)
    (side : Side) : (session.poll now turn cancelled side).Decided := by
  cases side with
  | input =>
      refine ⟨_, rfl, ?_⟩
      rw [poll, lookInput_progress]
      cases (session.input.look now cancelled).outcome <;> rfl
  | output => exact ⟨_, rfl, rfl⟩

theorem pollAll_decided (now : Instant) (turn : Turn) {sides : List Side} (waits : sides ≠ [])
    (cancelled : Bool) (session : Streaming) :
    (pollAll now turn sides cancelled session).Decided := by
  induction sides generalizing cancelled session with
  | nil => exact absurd rfl waits
  | cons side rest ih =>
      have first := poll_decided now turn cancelled session side
      cases rest with
      | nil =>
          rw [pollAll_singleton]
          exact first
      | cons next rest =>
          rw [pollAll]
          split
          · exact first
          · exact (ih (List.cons_ne_nil _ _) _ _).followedBy _

/-- There is always a side to poll: the output is waited for in every turn. -/
theorem output_mem_sides (session : Streaming) (turn : Turn) : .output ∈ session.sides turn := by
  unfold sides
  split
  · exact List.mem_cons_self
  · split
    · exact List.mem_cons_of_mem _ List.mem_cons_self
    · exact List.mem_cons_self

theorem loop_decided (now : Instant) (again turn : Turn) (cancelled : Bool) (session : Streaming) :
    (loop now again turn cancelled session).Decided := by
  fun_induction loop now again turn cancelled session with
  | case1 turn cancelled session polled done ih => exact ih.followedBy _
  | case2 turn cancelled session polled going =>
      exact pollAll_decided now turn (List.ne_nil_of_mem (output_mem_sides session turn)) _ _

/-! ## The loop is a look -/

/-- Without an input the loop is one poll of the output. -/
theorem loop_of_unfed {session : Streaming} (unfed : session.input.forwarding = false)
    (now : Instant) (again turn : Turn) (cancelled : Bool) :
    loop now again turn cancelled session = session.poll now turn cancelled .output := by
  have sides : session.sides turn = [.output] := by
    rw [Streaming.sides, unfed]
    rfl
  rw [loop, sides, pollAll_singleton, if_neg]
  exact fun done => by cases done

theorem pollAll_pair_of_ready {now : Instant} {turn : Turn} {cancelled : Bool}
    {session : Streaming} {first : Side} (second : Side)
    (ready : (session.poll now turn cancelled first).polls.any Poll.isReady = true) :
    pollAll now turn [first, second] cancelled session = session.poll now turn cancelled first := by
  rw [pollAll, if_pos ready]

theorem pollAll_pair_of_not_ready {now : Instant} {turn : Turn} {cancelled : Bool}
    {session : Streaming} {first : Side} (second : Side)
    (waits : (session.poll now turn cancelled first).polls.any Poll.isReady = false) :
    pollAll now turn [first, second] cancelled session =
      (session.poll now turn cancelled first).followedBy
        ((session.poll now turn cancelled first).look.session.poll now turn
          (session.poll now turn cancelled first).look.cancelled second) := by
  rw [pollAll, if_neg (by simp [waits]), pollAll_singleton]

/-- The first turn at a moment. -/
def Turn.first (choices : Choices) : Turn := ⟨choices.inputFirst, choices.stderrFirst⟩

/-- The turns after it. -/
def Turn.again (choices : Choices) : Turn :=
  ⟨choices.inputFirst,
    if choices.inputFirst then choices.stderrFirst else choices.stderrFirstAgain⟩

theorem Polled.look_followedBy {first next : Polled} {second : Bool → Streaming → Look}
    (pending : first.look.progress = .pending)
    (same : next.look = second first.look.cancelled first.look.session) :
    (first.followedBy next).look = first.look.followedBy second := by
  rw [Look.followedBy_of_pending pending, ← same]
  rfl

section

variable {now : Instant} {again turn : Turn} {cancelled : Bool} {session : Streaming}

/-- After a turn that ends with the input done the output is polled once more. -/
theorem loop_of_done
    (done : (pollAll now turn (session.sides turn) cancelled session).polls.getLast? =
      some (.input .done)) :
    loop now again turn cancelled session =
      (pollAll now turn (session.sides turn) cancelled session).followedBy
        ((pollAll now turn (session.sides turn) cancelled session).look.session.poll now again
          (pollAll now turn (session.sides turn) cancelled session).look.cancelled .output) := by
  have unfed := (Polled.of_left (turn_of_inputDone done).2).2
  rw [loop, if_pos done, loop_of_unfed unfed]

theorem loop_of_going
    (going : (pollAll now turn (session.sides turn) cancelled session).polls.getLast? ≠
      some (.input .done)) :
    loop now again turn cancelled session =
      pollAll now turn (session.sides turn) cancelled session := by
  rw [loop, if_neg going]

theorem loop_look_of_inputFirst (fed : session.input.forwarding = true)
    (inputFirst : turn.inputFirst = true) (same : again.stderrFirst = turn.stderrFirst) :
    (loop now again turn cancelled session).look =
      (session.lookInput now cancelled).followedBy (lookOutput now turn.stderrFirst) := by
  have sides := sides_of_inputFirst fed inputFirst
  have progress := lookInput_progress now cancelled session
  cases outcome : (session.input.look now cancelled).outcome with
  | pending =>
      have waits : (session.poll now turn cancelled .input).polls.any Poll.isReady = false := by
        simp [poll, outcome, Poll.isReady]
      rw [outcome] at progress
      rw [loop_of_going, sides, pollAll_pair_of_not_ready _ waits]
      · exact Polled.look_followedBy progress rfl
      · rw [sides, pollAll_pair_of_not_ready _ waits]
        exact fun done => by cases done
  | done =>
      have ready : (session.poll now turn cancelled .input).polls.any Poll.isReady = true := by
        simp [poll, outcome, Poll.isReady]
      rw [outcome] at progress
      rw [loop_of_done, sides, pollAll_pair_of_ready _ ready]
      · rw [← same]
        exact Polled.look_followedBy progress rfl
      · rw [sides, pollAll_pair_of_ready _ ready, poll, outcome]
        rfl
  | failed failure =>
      have ready : (session.poll now turn cancelled .input).polls.any Poll.isReady = true := by
        simp [poll, outcome, Poll.isReady]
      have stopped : (session.lookInput now cancelled).progress ≠ .pending := by
        rw [progress, outcome]
        exact Progress.noConfusion
      rw [Look.followedBy_of_ne_pending stopped, loop_of_going, sides,
        pollAll_pair_of_ready _ ready]
      · rfl
      · rw [sides, pollAll_pair_of_ready _ ready, poll, outcome]
        exact fun done => by cases done

/-- After a turn that ends with a poll of the input the output is looked at if the input is gone. -/
theorem loop_look_of_last {outcome : Copy.Outcome}
    (last : (pollAll now turn (session.sides turn) cancelled session).polls.getLast? =
      some (.input outcome)) :
    (loop now again turn cancelled session).look =
      (pollAll now turn (session.sides turn) cancelled session).look.followedBy
        fun cancelled session =>
          if session.input.forwarding then ⟨session, .pending, cancelled, []⟩
          else session.lookOutput now again.stderrFirst cancelled := by
  have left := ((turn_orderly now turn cancelled session).of_input last).2
  -- What is left by the last poll says what the second look finds.
  cases outcome with
  | pending =>
      rcases Polled.of_left left with ⟨pending, fed⟩
      rw [loop_of_going (by rw [last]; exact fun done => by cases done),
        Look.followedBy_of_pending pending, if_pos fed, List.append_nil, ← pending]
  | done =>
      rcases Polled.of_left left with ⟨pending, unfed⟩
      rw [loop_of_done last]
      apply Polled.look_followedBy pending
      rw [if_neg (by simp [unfed])]
      rfl
  | failed failure =>
      rw [loop_of_going (by rw [last]; exact fun done => by cases done),
        Look.followedBy_of_ne_pending (Polled.of_left_none left)]

theorem loop_look_of_outputFirst (fed : session.input.forwarding = true)
    (outputFirst : turn.inputFirst = false) :
    (loop now again turn cancelled session).look =
      ((session.lookOutput now turn.stderrFirst cancelled).followedBy (lookInput now)).followedBy
        fun cancelled session =>
          if session.input.forwarding then ⟨session, .pending, cancelled, []⟩
          else session.lookOutput now again.stderrFirst cancelled := by
  have sides := sides_of_outputFirst fed outputFirst
  cases progress : (session.lookOutput now turn.stderrFirst cancelled).progress with
  | pending =>
      have waits : (session.poll now turn cancelled .output).polls.any Poll.isReady = false := by
        simp [poll, progress, Poll.isReady]
      have turned := pollAll_pair_of_not_ready .input waits
      have looked : (pollAll now turn (session.sides turn) cancelled session).look =
          (session.lookOutput now turn.stderrFirst cancelled).followedBy (lookInput now) := by
        rw [sides, turned]
        exact Polled.look_followedBy progress rfl
      rw [← looked]
      rw [← sides] at turned
      exact loop_look_of_last (congrArg (fun polled => polled.polls.getLast?) turned)
  | finished | failed =>
      have ready : (session.poll now turn cancelled .output).polls.any Poll.isReady = true := by
        simp [poll, progress, Poll.isReady]
      have stopped : (session.lookOutput now turn.stderrFirst cancelled).progress ≠ .pending := by
        rw [progress]
        exact Progress.noConfusion
      rw [Look.followedBy_of_ne_pending stopped, Look.followedBy_of_ne_pending stopped,
        loop_of_going, sides, pollAll_pair_of_ready _ ready]
      · rfl
      · rw [sides, pollAll_pair_of_ready _ ready, poll]
        exact fun done => by cases done

end

/-- The loop does what a look at the streams does. -/
theorem loop_look (choices : Choices) (now : Instant) (cancelled : Bool) (session : Streaming) :
    (loop now (.again choices) (.first choices) cancelled session).look =
      session.look choices now cancelled := by
  unfold look
  dsimp only
  cases fed : session.input.forwarding with
  | false =>
      rw [loop_of_unfed fed]
      rfl
  | true =>
      cases inputFirst : choices.inputFirst with
      | true =>
          exact loop_look_of_inputFirst fed inputFirst (by rw [Turn.again, if_pos inputFirst]; rfl)
      | false =>
          rw [loop_look_of_outputFirst fed inputFirst, Turn.again, if_neg (by simp [inputFirst])]
          rfl

end Streaming
end PodCommand
