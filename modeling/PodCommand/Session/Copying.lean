import PodCommand.Session.Copy

namespace PodCommand
namespace Copy

/-!
Copies that can come about.

Not every state of a copy is one that a copy comes to: `Sound` says which are, and a `Copying` is a
copy that is.  Every request leads from one of them to another, so an attempt does too.
-/

/-- The source is known to have ended only where it has. -/
def Told (copy : Copy) : Prop :=
  copy.exhausted = true → copy.source.script = [] ∧ copy.source.isWhole = true

/-- There is room in the buffer where the source is read, something to write where it is written,
and nothing left where the far side is closed. -/
def Sound (copy : Copy) : Prop :=
  copy.Told ∧
    match copy.stage with
    | .reading | .flushing => copy.exhausted = false ∧ copy.filled < bufferSize
    | .toppingUp => (copy.exhausted = false ∧ copy.filled < bufferSize) ∧ copy.unwritten ≠ []
    | .writing => copy.unwritten ≠ []
    | .finishing | .closing => copy.exhausted = true ∧ copy.unwritten = []

/-- The copy after a request. -/
def Stride.next : Stride → Copy
  | .quiet next | .gaveUp next | .wrote _ next | .rests next _ => next

/-- A request that leaves a copy that can come about. -/
def Stride.Sound (stride : Stride) : Prop := stride.next.Sound

theorem sound_start (source : Tape) (sink : Sink) : (start source sink).Sound :=
  ⟨Bool.noConfusion, rfl, Nat.zero_lt_succ _⟩

section

variable {copy : Copy} {now : Instant}

theorem told_of_open (unread : copy.exhausted = false) : copy.Told := fun exhausted => by
  rw [unread] at exhausted
  cases exhausted

theorem Sound.turn (sound : copy.Sound) : copy.turn.Sound := by
  refine ⟨fun exhausted => ?_, sound.2⟩
  have ended := sound.1 exhausted
  have same : copy.turn.source = copy.source := Tape.turn_of_isWhole ended.2
  rw [same]
  exact ended

theorem sound_proceed (told : copy.Told) (left : copy.exhausted = false → copy.unwritten ≠ []) :
    copy.proceed.Sound := by
  by_cases empty : copy.unwritten = []
  · have exhausted : copy.exhausted = true :=
      Bool.not_eq_false _ ▸ fun unread => left unread empty
    refine ⟨told, ?_⟩
    simp only [proceed, Stride.next, enter, empty, List.isEmpty_nil, if_true]
    exact ⟨exhausted, trivial⟩
  · refine ⟨told, ?_⟩
    simp only [proceed, Stride.next, enter, List.isEmpty_iff, if_neg empty]
    exact empty

theorem sound_starve (unread : copy.exhausted = false) (room : copy.filled < bufferSize)
    (reading : copy.stage = .reading) : copy.starve.Sound := by
  have told : copy.Told := told_of_open unread
  unfold starve
  split
  · rename_i left
    refine ⟨told, ?_⟩
    simpa [Stride.next, enter] using left
  · split
    · exact ⟨told, unread, room⟩
    · refine ⟨told, ?_⟩
      simp only [Stride.next, reading]
      exact ⟨unread, room⟩

theorem sound_await (told : copy.Told) (left : copy.unwritten ≠ []) : copy.await.Sound := by
  refine ⟨told, ?_⟩
  unfold await
  by_cases more : copy.exhausted = false ∧ copy.filled < bufferSize
  · simp [Stride.next, enter, more]
  · simpa [Stride.next, enter, more] using left

theorem sound_deliver (told : copy.Told) (writing : copy.stage = .writing) (count : Nat) :
    (copy.deliver count).Sound := by
  unfold deliver
  dsimp only
  split
  · rename_i left
    refine ⟨told, ?_⟩
    simpa [writing] using left
  · rename_i nothing
    refine ⟨told, ?_⟩
    cases exhausted : copy.exhausted with
    | true => simpa using nothing
    | false => exact ⟨rfl, Nat.zero_lt_succ _⟩

theorem unwritten_fill_ne_nil {bytes : Bytes} (some : bytes ≠ []) (room : copy.filled < bufferSize)
    (left : Tape) : (copy.fill bytes left).unwritten ≠ [] := by
  have none : bufferSize - copy.filled ≠ 0 := Nat.sub_ne_zero_of_lt room
  simp [fill, List.take_eq_nil_iff, some, none]

/-- What reading comes to, by what stands at the front of the source. -/
theorem read_cases {given starved : Copy → Stride} {motive : Stride → Prop}
    (ends : copy.source.script = [] → copy.source.isWhole = true →
      motive (given { copy with exhausted := true }))
    (skips : ∀ step rest, copy.source.script = step :: rest →
      Tape.Idle (copy.surroundings now) step →
      motive (.quiet (copy.withSource (copy.source.goTo rest))))
    (cancels : ∀ rest, copy.source.script = .cancel :: rest →
      motive (.gaveUp (copy.withSource (copy.source.goTo rest))))
    (starves : ∀ left, copy.source.Held (copy.surroundings now) left →
      motive (starved (copy.withSource left)))
    (reads : ∀ bytes rest, copy.source.script = .data bytes :: rest → bytes ≠ [] →
      motive (given (copy.fill bytes (copy.source.goTo rest))))
    (fails : ∀ failure rest, copy.source.script = .fail failure :: rest →
      motive (.rests (copy.withSource (copy.source.goTo rest)) (.failed failure))) :
    motive (copy.read now given starved) := by
  have asked := copy.source.asked (copy.surroundings now)
  unfold read
  cases reply : copy.source.ask (copy.surroundings now) <;> rw [reply] at asked <;> cases asked
  case ended nothing whole => exact ends nothing whole
  case passed front met => exact skips _ _ front (.passed met)
  case accepts front => exact skips _ _ front (.accept _)
  case gaveUp front => exact cancels _ front
  case held held => exact starves _ held
  case data bytes rest front =>
    by_cases empty : bytes = []
    · subst empty
      exact skips _ _ front .empty
    · dsimp only
      rw [if_neg (by simpa using empty)]
      exact reads _ _ front empty
  case failed front => exact fails _ _ front

/-- What writing comes to, by what stands at the front of what the far side takes. -/
theorem write_cases {motive : Stride → Prop}
    (ends : copy.sink.takes.script = [] → copy.sink.takes.isWhole = true →
      motive (.wrote copy.unwritten (copy.deliver copy.unwritten.length)))
    (skips : ∀ step rest, copy.sink.takes.script = step :: rest →
      (step.meet (copy.surroundings now) = .passed ∨ ∃ bytes, step = .data bytes) →
      motive (.quiet (copy.withTakes (copy.sink.takes.goTo rest))))
    (cancels : ∀ rest, copy.sink.takes.script = .cancel :: rest →
      motive (.gaveUp (copy.withTakes (copy.sink.takes.goTo rest))))
    (waits : ∀ left, copy.sink.takes.Held (copy.surroundings now) left →
      motive (copy.withTakes left).stall)
    (refuses : ∀ rest, copy.sink.takes.script = .accept 0 :: rest →
      motive (.rests (copy.withTakes (copy.sink.takes.goTo rest)) (.failed .zeroWrite)))
    (takes : ∀ count rest, copy.sink.takes.script = .accept count :: rest → count ≠ 0 →
      motive (.wrote (copy.unwritten.take count)
        ((copy.withTakes
          ((copy.sink.takes.goTo rest).readyFor (count - copy.unwritten.length))).deliver count)))
    (fails : ∀ failure rest, copy.sink.takes.script = .fail failure :: rest →
      motive (.rests (copy.withTakes (copy.sink.takes.goTo rest)) (.failed failure))) :
    motive (copy.write now) := by
  have asked := copy.sink.takes.asked (copy.surroundings now)
  unfold write
  cases reply : copy.sink.takes.ask (copy.surroundings now) <;> rw [reply] at asked <;> cases asked
  case ended nothing whole => exact ends nothing whole
  case passed front met => exact skips _ _ front (Or.inl met)
  case data front => exact skips _ _ front (Or.inr ⟨_, rfl⟩)
  case gaveUp front => exact cancels _ front
  case held held => exact waits _ held
  case failed front => exact fails _ _ front
  case accepts count rest front =>
    by_cases none : count = 0
    · subst none
      exact refuses _ front
    · dsimp only
      rw [if_neg none]
      exact takes _ _ front none

/-- What waiting for an answer comes to, by what stands at the front of the tape. -/
theorem settle_cases {tape : Tape} {put : Tape → Copy} {held answered : Copy → Stride}
    {motive : Stride → Prop}
    (ends : tape.script = [] → tape.isWhole = true → motive (answered copy))
    (passes : ∀ step rest, tape.script = step :: rest →
      step.meet (copy.surroundings now) = .passed → motive (.quiet (put (tape.goTo rest))))
    (cancels : ∀ rest, tape.script = .cancel :: rest → motive (.gaveUp (put (tape.goTo rest))))
    (waits : ∀ left, tape.Held (copy.surroundings now) left → motive (held (put left)))
    (answers : ∀ step rest, tape.script = step :: rest →
      ((∃ bytes, step = .data bytes) ∨ ∃ count, step = .accept count) →
      motive (answered (put (tape.goTo rest))))
    (fails : ∀ failure rest, tape.script = .fail failure :: rest →
      motive (.rests (put (tape.goTo rest)) (.failed failure))) :
    motive (copy.settle now tape put held answered) := by
  have asked := tape.asked (copy.surroundings now)
  unfold settle
  cases reply : tape.ask (copy.surroundings now) <;> rw [reply] at asked <;> cases asked
  case ended nothing whole => exact ends nothing whole
  case passed front met => exact passes _ _ front met
  case gaveUp front => exact cancels _ front
  case held isHeld => exact waits _ isHeld
  case data front => exact answers _ _ front (Or.inl ⟨_, rfl⟩)
  case accepts front => exact answers _ _ front (Or.inr ⟨_, rfl⟩)
  case failed front => exact fails _ _ front

theorem sound_write (sound : copy.Sound) (writing : copy.stage = .writing) :
    (copy.write now).Sound := by
  have told := sound.1
  have same : ∀ left, (copy.withTakes left).Sound := fun _ => sound
  have taken : ∀ left count, ((copy.withTakes left).deliver count).Sound :=
    fun left count => sound_deliver (show (copy.withTakes left).Told from told) writing count
  have left : copy.unwritten ≠ [] := by
    have stage := sound.2
    rwa [writing] at stage
  refine write_cases (fun _ _ => sound_deliver told writing _) (fun _ _ _ _ => same _)
    (fun _ _ => same _) (fun takes _ => ?_) (fun _ _ => same _) (fun _ _ _ _ => ?_)
    (fun _ _ _ => same _)
  · unfold stall
    split
    · rename_i more
      rw [Bool.and_eq_true, Bool.not_eq_true', decide_eq_true_eq] at more
      exact ⟨told, more, left⟩
    · exact same _
  · exact taken _ _

/-- No request leaves the copies that can come about. -/
theorem Sound.step (sound : copy.Sound) (now : Instant) : (copy.step now).Sound := by
  have stage := sound.2
  unfold Copy.step
  cases current : copy.stage with
  | reading =>
      rw [current] at stage
      rcases stage with ⟨unread, room⟩
      have told : ∀ {later : Copy}, later.exhausted = copy.exhausted → later.Told :=
        fun same => told_of_open (same.trans unread)
      have same : ∀ left, (copy.withSource left).Sound :=
        fun _ => ⟨told rfl, by simpa [withSource, current] using ⟨unread, room⟩⟩
      refine read_cases (fun nothing whole => ?_) (fun _ _ _ _ => same _) (fun _ _ => same _)
        (fun _ _ => sound_starve unread room current) (fun bytes rest _ some => ?_)
        (fun _ _ _ => same _)
      · exact sound_proceed (fun _ => ⟨nothing, whole⟩) Bool.noConfusion
      · exact sound_proceed (told rfl) fun _ => unwritten_fill_ne_nil some room _
  | toppingUp =>
      rw [current] at stage
      rcases stage with ⟨⟨unread, room⟩, left⟩
      have told : ∀ {later : Copy}, later.exhausted = copy.exhausted → later.Told :=
        fun same => told_of_open (same.trans unread)
      have same : ∀ left, (copy.withSource left).Sound :=
        fun _ => ⟨told rfl, by simpa [withSource, current] using ⟨⟨unread, room⟩, left⟩⟩
      refine read_cases (fun nothing whole => ?_) (fun _ _ _ _ => same _) (fun _ _ => same _)
        (fun _ _ => sound_await (told rfl) left) (fun bytes rest _ some => ?_) (fun _ _ _ => same _)
      · exact sound_await (fun _ => ⟨nothing, whole⟩) left
      · exact sound_await (told rfl) (unwritten_fill_ne_nil some room _)
  | writing => exact sound_write sound current
  | flushing =>
      rw [current] at stage
      have next : ∀ left, ((copy.withFlushes left).enter .reading).Sound :=
        fun _ => ⟨sound.1, stage⟩
      have same : ∀ left, (copy.withFlushes left).Sound :=
        fun _ => ⟨sound.1, by simpa [withFlushes, current] using stage⟩
      exact settle_cases (fun _ _ => ⟨sound.1, stage⟩) (fun _ _ _ _ => same _) (fun _ _ => same _)
        (fun _ _ => next _) (fun _ rest _ _ => next (copy.sink.closing.flushes.goTo rest))
        (fun _ _ _ => same _)
  | finishing =>
      rw [current] at stage
      have same : ∀ left, (copy.withFlushes left).Sound := fun _ => sound
      exact settle_cases (fun _ _ => ⟨sound.1, stage⟩) (fun _ _ _ _ => same _) (fun _ _ => same _)
        (fun _ _ => same _) (fun _ _ _ _ => ⟨sound.1, stage⟩) (fun _ _ _ => same _)
  | closing =>
      have same : ∀ left, (copy.withShutdown left).Sound := fun _ => sound
      exact settle_cases (fun _ _ => sound) (fun _ _ _ _ => same _) (fun _ _ => same _)
        (fun _ _ => same _) (fun _ _ _ _ => same _) (fun _ _ _ => same _)

theorem Sound.run (sound : copy.Sound) (now : Instant) (fuel : Nat) :
    (copy.run now fuel).copy.Sound := by
  induction fuel generalizing copy with
  | zero => exact sound
  | succ fuel ih =>
      have next := sound.step now
      rw [Copy.run]
      cases taken : copy.step now <;> rw [taken] at next
      case quiet => exact ih next
      case gaveUp => exact ih next
      case wrote => exact ih next
      case rests => exact next

end

end Copy

/-- A copy that can come about. -/
structure Copying where
  copy : Copy
  sound : copy.Sound

namespace Copying

/-- A copy of which nothing has been done. -/
def start (source : Tape) (sink : Sink) : Copying :=
  ⟨.start source sink, Copy.sound_start source sink⟩

/-- Goes on with a copy until it rests. -/
def attempt (now : Instant) (copying : Copying) : Copy.Attempt :=
  copying.copy.turn.run now copying.copy.turn.work

/-- The copy after that. -/
def next (now : Instant) (copying : Copying) : Copying :=
  ⟨(copying.attempt now).copy, copying.sound.turn.run now _⟩

end Copying
end PodCommand
