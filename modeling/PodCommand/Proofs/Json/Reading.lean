import Mathlib.Data.List.Forall2
import PodCommand.Json.Reading
import PodCommand.Proofs.Json.Scanning

namespace PodCommand
namespace Json

/-!
From the events of a value to what is read of it.

A reader takes the events of one value and leaves those that follow, whatever they are; and where a
value is not of the form that it wants, it fails.  `Reads` says both at once, for every value, so a
reader that is put together from others is known by what they do.
-/

/-! ## Results -/

/-- A result that gives something of a kind and leaves the given rest; it is an error only if there
is nothing of the kind. -/
inductive Gives {α : Type} (kind : α → Prop) (rest : Transcript) :
    Except Problem (α × Transcript) → Prop
  | ok {a : α} (is : kind a) : Gives kind rest (.ok (a, rest))
  | error {problem : Problem} (none : ∀ a, ¬ kind a) : Gives kind rest (.error problem)

namespace Gives

variable {α β : Type} {kind : α → Prop} {later : β → Prop} {between rest : Transcript}

theorem bind {result : Except Problem (α × Transcript)}
    {next : α × Transcript → Except Problem (β × Transcript)} (first : Gives kind between result)
    (second : ∀ a, kind a → Gives later rest (next (a, between)))
    (none : (∀ a, ¬ kind a) → ∀ b, ¬ later b) : Gives later rest (result >>= next) := by
  cases first with
  | ok is => exact second _ is
  | error nothing => exact .error (none nothing)

theorem map {result : Except Problem (α × Transcript)} (first : Gives kind rest result)
    (f : α → β) (same : ∀ b, later b ↔ ∃ a, kind a ∧ f a = b) :
    Gives later rest (result >>= fun read => .ok (f read.1, read.2)) := by
  refine first.bind (fun a is => .ok ((same _).mpr ⟨a, is, rfl⟩)) fun none b is => ?_
  rcases (same b).mp is with ⟨a, is, _⟩
  exact none a is

theorem imp {other : α → Prop} {result : Except Problem (α × Transcript)}
    (gives : Gives kind rest result) (right : ∀ a, kind a → other a)
    (none : (∀ a, ¬ kind a) → ∀ a, ¬ other a) : Gives other rest result := by
  cases gives with
  | ok is => exact .ok (right _ is)
  | error nothing => exact .error (none nothing)

end Gives

/-- A reader that gives what a value means, and fails for a value that means nothing to it. -/
def Reads {α : Type} (read : Transcript → Except Problem (α × Transcript))
    (means : Value → α → Prop) : Prop :=
  ∀ (value : Value) (rest : List Event) (problem : Option Problem),
    Gives (means value) ⟨rest, problem⟩ (read ⟨value.events ++ rest, problem⟩)

theorem Value.events_length_pos (value : Value) : 0 < value.events.length := by
  cases value <;> exact Nat.succ_pos _

/-! ## Single values -/

theorem reads_string : Reads readString fun value text => value = .string text := by
  intro value rest problem
  cases value with
  | string text => exact .ok rfl
  | _ => exact .error fun _ same => Value.noConfusion same

/-- The number of a numeral is natural exactly if it is written as one. -/
theorem natural?_eq_some_iff {numeral : Numeral} {n : Nat} :
    numeral.number.natural? = some n ↔ numeral.IsNatural n := by
  rcases numeral with ⟨negative, whole, fraction, exponent, proper⟩
  constructor
  · intro read
    cases negative <;> cases fraction <;> cases exponent <;>
      simp [Number.natural?, Numeral.number] at read
    exact ⟨rfl, rfl, rfl, read⟩
  · rintro ⟨rfl, rfl, rfl, value⟩
    simp [Number.natural?, Numeral.number]
    exact value

theorem reads_natural (bound : Nat) :
    Reads (readNatural bound) fun value n =>
      n < bound ∧ ∃ numeral, value = .number numeral ∧ numeral.IsNatural n := by
  intro value rest problem
  cases value with
  | number numeral =>
      have unique : ∀ {n m : Nat}, numeral.number.natural? = some n → numeral.IsNatural m →
          m = n := fun read natural =>
        Option.some.inj ((natural?_eq_some_iff.mpr natural).symm.trans read)
      simp only [readNatural, Value.events, List.cons_append, List.nil_append, Transcript.next,
        bind, Except.bind]
      cases read : numeral.number.natural? with
      | none =>
          refine .error ?_
          rintro m ⟨_, numeral', same, natural⟩
          cases same
          rw [natural?_eq_some_iff.mpr natural] at read
          cases read
      | some n =>
          by_cases small : n < bound
          · simp only [small, if_true]
            exact .ok ⟨small, numeral, rfl, natural?_eq_some_iff.mp read⟩
          · simp only [small, if_false]
            refine .error ?_
            rintro m ⟨small', numeral', same, natural⟩
            cases same
            exact small (unique read natural ▸ small')
  | _ =>
      refine .error ?_
      rintro _ ⟨_, numeral, same, _⟩
      cases same

/-- What may be `null` instead is read as nothing there. -/
theorem Reads.optional {α : Type} {read : Transcript → Except Problem (α × Transcript)}
    {means : Value → α → Prop} (reads : Reads read means) :
    Reads (readOptional read) fun value given =>
      match given with
      | none => value = .null
      | some a => means value a := by
  intro value rest problem
  have present : value ≠ .null →
      readOptional read ⟨value.events ++ rest, problem⟩ =
        read ⟨value.events ++ rest, problem⟩ >>= fun result => .ok (some result.1, result.2) := by
    intro different
    cases value with
    | null => exact absurd rfl different
    | _ => rfl
  by_cases null : value = .null
  · subst null
    exact .ok rfl
  · rw [present null]
    refine (reads value rest problem).map some fun given => ?_
    cases given with
    | none => simp [null]
    | some a => simp

/-- A text, or nothing for `null`. -/
def textValue : Option String → Value
  | none => .null
  | some text => .string text.toList

theorem reads_text? : Reads readText? fun value text => value = textValue text := by
  intro value rest problem
  refine (reads_string.optional value rest problem).map (Option.map String.ofList) fun text => ?_
  cases text with
  | none => simp [textValue]
  | some text => simp [textValue, String.ext_iff]

/-! ## Arrays -/

/-- The events of further items, each behind a comma. -/
def furtherEvents (items : List (List Event)) : List Event := items.flatMap (.comma :: ·)

theorem furtherEvents_cons (item : List Event) (items : List (List Event)) :
    furtherEvents (item :: items) = .comma :: (item ++ furtherEvents items) :=
  List.flatMap_cons

theorem length_furtherEvents_le (items : List (List Event)) :
    (furtherEvents items).length ≤ (itemEvents items).length + 1 := by
  cases items with
  | nil => exact Nat.zero_le _
  | cons first rest => exact Nat.le_of_eq rfl

section

variable {α : Type} {read : Transcript → Except Problem (α × Transcript)}
  {means : Value → α → Prop}

/-- An element is read before the others. -/
theorem readElements_element (value : Value) (fuel : Nat) (seen : List α) (rest : List Event)
    (problem : Option Problem) :
    readElements read (fuel + 1) seen ⟨value.events ++ rest, problem⟩ =
      read ⟨value.events ++ rest, problem⟩ >>= fun result =>
        readElements read fuel (result.1 :: seen) result.2 := by
  cases value <;> rfl

theorem Reads.elements (reads : Reads read means) (values : List Value) (fuel : Nat)
    (seen : List α) (enough : (furtherEvents (elementEvents values)).length < fuel)
    (rest : List Event) (problem : Option Problem) :
    Gives (fun all => ∃ list, List.Forall₂ means values list ∧ all = list.reverse ++ seen)
      ⟨rest, problem⟩
      (readElements read fuel seen
        ⟨furtherEvents (elementEvents values) ++ .endArray :: rest, problem⟩) := by
  induction values generalizing fuel seen with
  | nil =>
      obtain ⟨fuel, rfl⟩ := Nat.exists_eq_add_of_lt enough
      exact .ok ⟨[], .nil, rfl⟩
  | cons value values ih =>
      have split : furtherEvents (elementEvents (value :: values)) =
          .comma :: (value.events ++ furtherEvents (elementEvents values)) :=
        furtherEvents_cons _ _
      have taken := value.events_length_pos
      rw [split, List.length_cons, List.length_append] at enough
      obtain ⟨fuel, rfl⟩ : ∃ more, fuel = more + 2 := ⟨fuel - 2, by omega⟩
      have fewer : (furtherEvents (elementEvents values)).length < fuel := by omega
      rw [split, List.cons_append, List.append_assoc]
      change Gives _ _ (readElements read (fuel + 1) seen
        ⟨value.events ++ (furtherEvents (elementEvents values) ++ .endArray :: rest), problem⟩)
      rw [readElements_element]
      refine (reads value _ problem).bind (fun a is => ?_) fun none all given => ?_
      · refine (ih fuel (a :: seen) fewer).imp (fun all given => ?_) fun none all given => ?_
        · rcases given with ⟨list, elements, rfl⟩
          exact ⟨a :: list, .cons is elements, by simp⟩
        · rcases given with ⟨list, elements, rfl⟩
          cases elements with
          | cons _ others => exact none _ ⟨_, others, rfl⟩
      · rcases given with ⟨list, elements, rfl⟩
        cases elements with
        | cons is _ => exact none _ is

/-- An array is read as the list of what its elements mean. -/
theorem Reads.array (reads : Reads read means) :
    Reads (readArray read) fun value list =>
      ∃ values, value = .array values ∧ List.Forall₂ means values list := by
  intro value rest problem
  cases value with
  | array values =>
      have all : Gives
          (fun all => ∃ list, List.Forall₂ means values list ∧ all = list.reverse ++ [])
          ⟨rest, problem⟩
          (readElements read
            ((itemEvents (elementEvents values) ++ .endArray :: rest).length + 1) []
            ⟨itemEvents (elementEvents values) ++ .endArray :: rest, problem⟩) := by
        cases values with
        | nil => exact .ok ⟨[], .nil, rfl⟩
        | cons value values =>
            -- The first element is read as if there were a comma before it.
            have behind := reads.elements (value :: values)
              ((itemEvents (elementEvents (value :: values)) ++ .endArray :: rest).length + 2) []
            refine behind ?_ rest problem
            have short := length_furtherEvents_le (elementEvents (value :: values))
            rw [List.length_append]
            omega
      have written : (Value.array values).events ++ rest =
          .beginArray :: (itemEvents (elementEvents values) ++ .endArray :: rest) := by
        simp [Value.events]
      rw [written]
      refine all.map List.reverse fun list => ?_
      constructor
      · rintro ⟨values', same, elements⟩
        cases same
        exact ⟨list.reverse ++ [], ⟨list, elements, rfl⟩, by simp⟩
      · rintro ⟨_, ⟨list, elements, rfl⟩, rfl⟩
        exact ⟨values, rfl, by simpa using elements⟩
  | _ =>
      refine .error ?_
      rintro _ ⟨values, same, _⟩
      cases same

end

/-! ## Values that nobody asked for -/

/-- Events that are skipped within a container, and leave it open. -/
def Skips (events : List Event) : Prop :=
  ∀ (problem : Option Problem) (depth : Nat) (rest : List Event),
    skipOpen problem (depth + 1) (events ++ rest) = skipOpen problem (depth + 1) rest

namespace Skips

theorem nil : Skips [] := fun _ _ _ => rfl

theorem append {first second : List Event} (left : Skips first) (right : Skips second) :
    Skips (first ++ second) := by
  intro problem depth rest
  rw [List.append_assoc, left, right]

theorem comma {events : List Event} (skips : Skips events) : Skips (.comma :: events) :=
  fun problem depth rest => skips problem depth rest

theorem key {events : List Event} (text : Option (List Char)) (skips : Skips events) :
    Skips (.key text :: events) :=
  fun problem depth rest => skips problem depth rest

theorem array {events : List Event} (skips : Skips events) :
    Skips (.beginArray :: (events ++ [.endArray])) := by
  intro problem depth rest
  rw [List.cons_append, List.append_assoc, skipOpen, skips]
  rfl

theorem object {events : List Event} (skips : Skips events) :
    Skips (.beginObject :: (events ++ [.endObject])) := by
  intro problem depth rest
  rw [List.cons_append, List.append_assoc, skipOpen, skips]
  rfl

theorem items {all : List (List Event)} (skips : ∀ events ∈ all, Skips events) :
    Skips (itemEvents all) := by
  cases all with
  | nil => exact .nil
  | cons first others =>
      refine (skips first List.mem_cons_self).append ?_
      have later : ∀ events ∈ others, Skips events := fun events member =>
        skips events (List.mem_cons_of_mem _ member)
      clear skips
      induction others with
      | nil => exact .nil
      | cons second others ih =>
          refine (later second List.mem_cons_self).comma.append ?_
          exact ih fun events member => later events (List.mem_cons_of_mem _ member)

end Skips

mutual

theorem skips_value : (value : Value) → Skips value.events
  | .null | .bool _ | .number _ | .string _ => fun _ _ _ => rfl
  | .array elements => .array (.items (skips_elements elements))
  | .object members => .object (.items (skips_members members))

theorem skips_elements : (elements : List Value) → ∀ events ∈ elementEvents elements, Skips events
  | [], _, member => absurd member List.not_mem_nil
  | value :: rest, events, member =>
    match List.mem_cons.mp member with
    | .inl same => same ▸ skips_value value
    | .inr later => skips_elements rest events later

theorem skips_members : (members : List (List Char × Value)) →
    ∀ events ∈ memberEvents members, Skips events
  | [], _, member => absurd member List.not_mem_nil
  | (key, value) :: rest, events, member =>
    match List.mem_cons.mp member with
    | .inl same => same ▸ .key (some key) (skips_value value)
    | .inr later => skips_members rest events later

end

/-- A value of any form is skipped, to its end. -/
theorem skipValue_value (value : Value) (rest : List Event) (problem : Option Problem) :
    skipValue ⟨value.events ++ rest, problem⟩ = .ok ⟨rest, problem⟩ := by
  cases value with
  | array elements =>
      have skips := Skips.items (skips_elements elements) problem 0 (.endArray :: rest)
      rw [Value.events, List.cons_append, List.append_assoc]
      exact skips.trans (by simp only [skipOpen])
  | object members =>
      have skips := Skips.items (skips_members members) problem 0 (.endObject :: rest)
      rw [Value.events, List.cons_append, List.append_assoc]
      exact skips.trans (by simp only [skipOpen])
  | _ => rfl

end Json
end PodCommand
