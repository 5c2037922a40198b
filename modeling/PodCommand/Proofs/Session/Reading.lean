import PodCommand.Proofs.Session.Script

namespace PodCommand

/-!
Reading an output channel, look after look.

`Channel.Account` ties a channel to the script that it began with and to what has happened since:
whatever the rest delivers, the whole delivers after what has been captured, and the captured octets
are those of the reads.  A look that meets no failure keeps the account.  `Script.Clear` is the
condition under which one look reads a channel to its end.
-/

namespace Event

/-- The octets that an event tells to be read from a channel. -/
def octets (outlet : Outlet) : Event → Bytes
  | read source bytes => if source = outlet then bytes else []
  | _ => []

/-- Whether an event is one of reading a channel. -/
def isReading (outlet : Outlet) : Event → Bool
  | read source _ | drained source | broken source _ => source == outlet
  | _ => false

theorem isReading_of_ne {outlet other : Outlet} (different : outlet ≠ other) {event : Event}
    (reading : event.isReading outlet = true) : event.isReading other = false := by
  cases event with
  | read source | drained source | broken source =>
      have same : source = outlet := eq_of_beq reading
      rw [same]
      exact beq_eq_false_iff_ne.mpr different
  | _ => rfl

end Event

namespace Channel

/-- What a channel that began with the script has come to when the events have happened. -/
structure Account (outlet : Outlet) (script : Option Script) (events : List Event)
    (channel : Channel) : Prop where
  continues : ∀ bytes, (channel.script.getD []).Delivers bytes →
    (script.getD []).Delivers (channel.captured ++ bytes)
  captured : channel.captured = events.flatMap (Event.octets outlet)
  drained : channel.script = none → script = none ∨ .drained outlet ∈ events
  unbroken : ∀ failure, Event.broken outlet failure ∉ events

theorem account_ofScript (outlet : Outlet) (script : Option Script) :
    Account outlet script [] (ofScript script) where
  continues := fun _ delivers => delivers
  captured := rfl
  drained := Or.inl
  unbroken := fun _ => List.not_mem_nil

/-- A channel that is not looked at keeps its account while nothing is read from it. -/
theorem Account.append {outlet : Outlet} {script : Option Script} {events : List Event}
    {channel : Channel} (account : Account outlet script events channel) {more : List Event}
    (silent : ∀ event ∈ more, event.isReading outlet = false) :
    Account outlet script (events ++ more) channel where
  continues := account.continues
  captured := by
    have nothing : more.flatMap (Event.octets outlet) = [] := by
      rw [List.flatMap_eq_nil_iff]
      intro event member
      have notReading := silent event member
      cases event <;> simp_all [Event.isReading, Event.octets]
    rw [List.flatMap_append, nothing, List.append_nil]
    exact account.captured
  drained := fun ended =>
    (account.drained ended).imp_right fun member => List.mem_append_left more member
  unbroken := by
    intro failure member
    rcases List.mem_append.mp member with earlier | later
    · exact account.unbroken failure earlier
    · have notReading := silent _ later
      simp [Event.isReading] at notReading

theorem collect_isReading (outlet : Outlet) (around : Surroundings) (captured : Bytes)
    (cancelled : Bool) (script : Script) :
    ∀ event ∈ (collect outlet around captured cancelled script).events,
      event.isReading outlet = true := by
  induction script generalizing captured cancelled with
  | nil => simp [collect, Event.isReading]
  | cons step rest ih =>
      rw [collect]
      cases step.meet around with
      | passed | accepts | gaveUp => exact ih _ _
      | held => simp
      | data bytes =>
          intro event member
          rcases List.mem_cons.mp member with same | member
          · simp [same, Event.isReading]
          · exact ih _ _ event member
      | failed failure => simp [Event.isReading]

/-- What a look without a failure says of the script that it has read from: it ends the channel or
leaves a rest, and the rest, after what has been read, is worth what there was to read before. -/
structure Look.Accounts (outlet : Outlet) (captured : Bytes) (script : Script) (look : Look) :
    Prop where
  continues : ∀ bytes, (look.channel.script.getD []).Delivers bytes →
    ∃ more, script.Delivers more ∧ captured ++ more = look.channel.captured ++ bytes
  captured : look.channel.captured = captured ++ look.events.flatMap (Event.octets outlet)
  drained : look.channel.script = none → .drained outlet ∈ look.events
  unbroken : ∀ failure, Event.broken outlet failure ∉ look.events

/-- A step that delivers nothing by itself changes nothing in what the rest is worth. -/
theorem Look.Accounts.of_rest {outlet : Outlet} {captured : Bytes} {step : Step} {rest : Script}
    {look : Look} (accounts : look.Accounts outlet captured rest)
    (silent : ∀ {more}, rest.Delivers more → Script.Delivers (step :: rest) more) :
    look.Accounts outlet captured (step :: rest) where
  continues := by
    intro bytes delivers
    rcases accounts.continues bytes delivers with ⟨more, later, equal⟩
    exact ⟨more, silent later, equal⟩
  captured := accounts.captured
  drained := accounts.drained
  unbroken := accounts.unbroken

theorem collect_accounts {outlet : Outlet} {around : Surroundings} {captured : Bytes}
    {cancelled : Bool} {script : Script}
    (sound : (collect outlet around captured cancelled script).failure = none) :
    (collect outlet around captured cancelled script).Accounts outlet captured script := by
  induction script generalizing captured cancelled with
  | nil =>
      refine ⟨fun bytes delivers => ⟨bytes, delivers, rfl⟩, ?_, ?_, ?_⟩
      · simp [collect, Event.octets]
      · simp [collect]
      · simp [collect]
  | cons step rest ih =>
      have met := step.met around
      rw [collect] at sound ⊢
      cases meeting : step.meet around <;> rw [meeting] at met sound <;> cases met
      case passed pause => exact (ih sound).of_rest (.pause pause)
      case gaveUp same =>
        subst same
        exact (ih sound).of_rest (.pause rfl)
      case accepts count same =>
        subst same
        exact (ih sound).of_rest .accept
      case held as pause stays =>
        refine ⟨fun bytes delivers => ⟨bytes, .of_held pause stays delivers, rfl⟩, ?_, ?_, ?_⟩
        · simp
        · simp
        · simp
      case data chunk same =>
        subst same
        have accounts := ih sound
        refine ⟨fun bytes delivers => ?_, ?_, fun ended => ?_, fun failure member => ?_⟩
        · rcases accounts.continues bytes delivers with ⟨more, later, equal⟩
          exact ⟨chunk ++ more, .data later, by rw [← List.append_assoc, equal]⟩
        · simpa [Event.octets] using accounts.captured
        · exact List.mem_cons_of_mem _ (accounts.drained ended)
        · rcases List.mem_cons.mp member with impossible | member
          · cases impossible
          · exact accounts.unbroken failure member
      case failed => cases sound

theorem look_isReading (outlet : Outlet) (around : Surroundings) (cancelled : Bool)
    (channel : Channel) :
    ∀ event ∈ (channel.look outlet around cancelled).events, event.isReading outlet = true := by
  unfold look
  split
  · simp
  · exact collect_isReading outlet around channel.captured cancelled _

theorem collect_broken {outlet : Outlet} {around : Surroundings} {captured : Bytes}
    {cancelled : Bool} {script : Script} {failure : StreamFailure}
    (broken : (collect outlet around captured cancelled script).failure = some failure) :
    .broken outlet failure ∈ (collect outlet around captured cancelled script).events := by
  induction script generalizing captured cancelled with
  | nil => cases broken
  | cons step rest ih =>
      rw [collect] at broken ⊢
      cases meeting : step.meet around with
      | passed | accepts | gaveUp =>
          rw [meeting] at broken
          exact ih broken
      | held =>
          rw [meeting] at broken
          cases broken
      | data bytes =>
          rw [meeting] at broken
          exact List.mem_cons_of_mem _ (ih broken)
      | failed raised =>
          rw [meeting] at broken
          rw [Option.some.inj broken]
          exact List.mem_cons_self

/-- A look that fails says so. -/
theorem look_broken {outlet : Outlet} {around : Surroundings} {cancelled : Bool}
    {channel : Channel} {failure : StreamFailure}
    (broken : (channel.look outlet around cancelled).failure = some failure) :
    .broken outlet failure ∈ (channel.look outlet around cancelled).events := by
  unfold look at broken ⊢
  split at broken
  · cases broken
  · exact collect_broken broken

/-- The step lemma of reading: a look that meets no failure keeps the account. -/
theorem Account.look {outlet : Outlet} {script : Option Script} {events : List Event}
    {channel : Channel} (account : Account outlet script events channel)
    (around : Surroundings) (cancelled : Bool)
    (sound : (channel.look outlet around cancelled).failure = none) :
    Account outlet script (events ++ (channel.look outlet around cancelled).events)
      (channel.look outlet around cancelled).channel := by
  cases present : channel.script with
  | none =>
      simpa only [Channel.look, present, List.append_nil] using account
  | some rest =>
      simp only [Channel.look, present] at sound ⊢
      have accounts := collect_accounts sound
      refine ⟨?_, ?_, fun ended => ?_, ?_⟩
      · intro bytes delivers
        rcases accounts.continues bytes delivers with ⟨more, later, equal⟩
        rw [← equal]
        refine account.continues more ?_
        rw [present]
        exact later
      · rw [accounts.captured, List.flatMap_append, account.captured]
      · exact Or.inr (List.mem_append_right events (accounts.drained ended))
      · intro failure member
        rcases List.mem_append.mp member with earlier | later
        · exact account.unbroken failure earlier
        · exact accounts.unbroken failure later

/-- A channel whose account is closed has delivered the whole of its script. -/
theorem Account.delivers {outlet : Outlet} {script : Option Script} {events : List Event}
    {channel : Channel} (account : Account outlet script events channel)
    (ended : channel.hasEnded = true) : (script.getD []).Delivers channel.captured := by
  have stopped : channel.script = none := Option.isNone_iff_eq_none.mp ended
  have whole := account.continues []
  rw [stopped, List.append_nil] at whole
  exact whole .ended

end Channel

/-! ## Surroundings in which nothing holds a script back -/

/-- Later at the same moment: the session's input has taken as much or more since. -/
structure Surroundings.Precedes (earlier later : Surroundings) : Prop where
  now : earlier.now = later.now
  received : earlier.received ≤ later.received
  inputClosed : earlier.inputClosed = true → later.inputClosed = true

/-- What does not hold at a moment is met in the same way later at that moment. -/
theorem Step.meet_of_precedes {step : Step} {earlier later : Surroundings}
    (precedes : earlier.Precedes later) (free : ∀ as, step.meet earlier ≠ .held as) :
    step.meet later = step.meet earlier := by
  cases step with
  | wait span => simp only [Step.meet, precedes.now]
  | sleep wake => simp only [Step.meet, precedes.now]
  | awaitInput count =>
      by_cases enough : count ≤ earlier.received
      · simp only [Step.meet, if_pos enough, if_pos (Nat.le_trans enough precedes.received)]
      · exact absurd (by simp only [Step.meet, if_neg enough]) (free (.awaitInput count))
  | awaitInputEnd =>
      cases closed : earlier.inputClosed with
      | true => simp only [Step.meet, closed, precedes.inputClosed closed]
      | false => exact absurd (by simp [Step.meet, closed]) (free .awaitInputEnd)
  | _ => rfl

namespace Script

/-- A reader in these surroundings is neither held back nor failed by any step of the script. -/
def Clear (around : Surroundings) (script : Script) : Prop :=
  ∀ step ∈ script, (∀ as, step.meet around ≠ .held as) ∧ ∀ failure, step ≠ .fail failure

theorem Clear.of_precedes {earlier later : Surroundings} {script : Script}
    (clear : script.Clear earlier) (precedes : earlier.Precedes later) : script.Clear later := by
  intro step member
  refine ⟨?_, (clear step member).2⟩
  rw [Step.meet_of_precedes precedes (clear step member).1]
  exact (clear step member).1

/-- Playing that is not held up in some surroundings is not held up later at the same moment. -/
theorem play_of_precedes {earlier later : Surroundings} (precedes : earlier.Precedes later)
    {script : Script} {cancelled : Bool} (free : (script.play earlier cancelled).1 ≠ .held)
    (other : Bool) : (script.play later other).1 = (script.play earlier cancelled).1 := by
  induction script generalizing cancelled other with
  | nil => rfl
  | cons step rest ih =>
      rw [play] at free ⊢
      by_cases holds : ∃ as, step.meet earlier = .held as
      · rcases holds with ⟨as, held⟩
        rw [held] at free
        exact absurd rfl free
      · have same := Step.meet_of_precedes precedes (not_exists.mp holds)
        rw [play, same]
        cases meeting : step.meet earlier <;> rw [meeting] at free
        case passed => exact ih free other
        case gaveUp => exact ih free true

end Script

namespace Channel

/-- A channel with a clear script is read to its end in one look. -/
theorem collect_of_clear {around : Surroundings} {script : Script} (clear : script.Clear around)
    (outlet : Outlet) (captured : Bytes) (cancelled : Bool) :
    (collect outlet around captured cancelled script).failure = none ∧
      (collect outlet around captured cancelled script).channel.script = none := by
  induction script generalizing captured cancelled with
  | nil => exact ⟨rfl, rfl⟩
  | cons step rest ih =>
      have free := (clear step List.mem_cons_self).1
      have sound := (clear step List.mem_cons_self).2
      have later := fun captured cancelled =>
        ih (fun other member => clear other (List.mem_cons_of_mem _ member)) captured cancelled
      have met := step.met around
      rw [collect]
      cases meeting : step.meet around <;> rw [meeting] at met <;> cases met
      case passed => exact later _ _
      case gaveUp => exact later _ _
      case held as _ _ => exact absurd meeting (free as)
      case data => exact later _ _
      case failed failure same => exact absurd same (sound failure)
      case accepts => exact later _ _

theorem look_of_clear {around : Surroundings} {channel : Channel}
    (clear : (channel.script.getD []).Clear around) (outlet : Outlet) (cancelled : Bool) :
    (channel.look outlet around cancelled).failure = none ∧
      (channel.look outlet around cancelled).channel.hasEnded = true := by
  cases present : channel.script with
  | none => simp [look, present, hasEnded]
  | some rest =>
      rw [present] at clear
      have ended := collect_of_clear clear outlet channel.captured cancelled
      simp only [look, present, hasEnded]
      exact ⟨ended.1, Option.isNone_iff_eq_none.mpr ended.2⟩

end Channel
end PodCommand
