import PodCommand.Proofs.Json.Tokens

namespace PodCommand
namespace Json

/-!
From a text to its events.

The reading of a text is followed from place to place.  That one place is reached from another says
nothing about the fuel but that a step is taken for each character at most; so the parts of a text
are looked at one by one, and what is known of them is put together as the text itself is, without a
count of steps.  `IsJson.isValue` is the one induction over texts: every text of a value has the
events of the value.
-/

/-! ## Places -/

/-- A place in the reading of a text. -/
structure Place where
  expected : Expectation
  stack : List Container
  /-- What has been met, the latest first. -/
  seen : List Event
  text : List Char

/-- Goes through the rest of a text from a place. -/
def Place.scan (fuel : Nat) (place : Place) : Transcript :=
  scanFrom fuel place.expected place.stack place.seen place.text

/-- One place is reached from another, with a step for each of the characters between them at
most. -/
def Reaches (here there : Place) : Prop :=
  ∃ steps, steps + there.text.length ≤ here.text.length ∧
    ∀ fuel, here.scan (fuel + steps) = there.scan fuel

theorem Reaches.trans {first second third : Place} (left : Reaches first second)
    (right : Reaches second third) : Reaches first third := by
  obtain ⟨steps, fewer, scans⟩ := left
  obtain ⟨steps', fewer', scans'⟩ := right
  refine ⟨steps' + steps, by omega, fun fuel => ?_⟩
  rw [← Nat.add_assoc, scans, scans']

/-- White space is passed without a step. -/
theorem Reaches.blanks (expected : Expectation) (stack : List Container) (seen : List Event)
    {blanks : List Char} (blank : ∀ c ∈ blanks, isBlank c = true) (text : List Char) :
    Reaches ⟨expected, stack, seen, blanks ++ text⟩ ⟨expected, stack, seen, text⟩ := by
  refine ⟨0, by simp, fun fuel => ?_⟩
  cases fuel with
  | zero => rfl
  | succ fuel =>
      have same : (blanks ++ text).dropWhile isBlank = text.dropWhile isBlank :=
        List.dropWhile_append_of_pos blank
      simp only [Place.scan, Nat.add_zero]
      rw [scanFrom.eq_def, scanFrom.eq_def (fuel + 1) expected stack seen text]
      simp only [same]

/-- A step that takes at least one character. -/
theorem Reaches.step {here there : Place} (shorter : there.text.length < here.text.length)
    (scans : ∀ fuel, here.scan (fuel + 1) = there.scan fuel) : Reaches here there :=
  ⟨1, by omega, scans⟩

namespace Container

def opening : Container → Char
  | array => '['
  | object => '\x7b'

def closing : Container → Char
  | array => ']'
  | object => '\x7d'

/-- What stands at the beginning of a container, if it is not empty. -/
def first : Container → Expectation
  | array => .firstElement
  | object => .firstKey

/-- What stands behind a comma in a container. -/
def further : Container → Expectation
  | array => .value
  | object => .key

def beginning : Container → Event
  | array => .beginArray
  | object => .beginObject

def ending : Container → Event
  | array => .endArray
  | object => .endObject

end Container

section Steps

variable (stack : List Container) (seen : List Event)

-- What follows unfolds the reading once for each form of the front of a text.
attribute [local simp] Place.scan scanFrom isBlank

theorem Reaches.string {body text : List Char} (quoted : IsQuoted body text) (rest : List Char) :
    Reaches ⟨.value, stack, seen, '"' :: (body ++ '"' :: rest)⟩
      ⟨.afterValue, stack, .string (some text) :: seen, rest⟩ := by
  rcases quoted.scanned with ⟨parts, joins, scans⟩
  refine .step (by simp; omega) fun fuel => ?_
  simp [scans, joins.joined]

theorem Reaches.key {expected : Expectation} (awaited : expected = .firstKey ∨ expected = .key)
    {body text : List Char} (quoted : IsQuoted body text) (rest : List Char) :
    Reaches ⟨expected, stack, seen, '"' :: (body ++ '"' :: rest)⟩
      ⟨.colon, stack, .key (some text) :: seen, rest⟩ := by
  rcases quoted.scanned with ⟨parts, joins, scans⟩
  refine .step (by simp; omega) fun fuel => ?_
  rcases awaited with rfl | rfl <;> simp [scans, joins.joined]

theorem Reaches.colon (rest : List Char) :
    Reaches ⟨.colon, stack, seen, ':' :: rest⟩ ⟨.value, stack, seen, rest⟩ := by
  refine .step (by simp) fun fuel => ?_
  simp

theorem Reaches.null (rest : List Char) :
    Reaches ⟨.value, stack, seen, ['n', 'u', 'l', 'l'] ++ rest⟩
      ⟨.afterValue, stack, .null :: seen, rest⟩ := by
  refine .step (by simp; omega) fun fuel => ?_
  simp [scanLiteral]

theorem Reaches.bool (value : Bool) (rest : List Char) :
    Reaches
      ⟨.value, stack, seen,
        (if value then ['t', 'r', 'u', 'e'] else ['f', 'a', 'l', 's', 'e']) ++ rest⟩
      ⟨.afterValue, stack, .bool value :: seen, rest⟩ := by
  cases value with
  | true =>
      refine .step (by simp; omega) fun fuel => ?_
      simp [scanLiteral]
  | false =>
      refine .step (by simp; omega) fun fuel => ?_
      simp [scanLiteral]

theorem ne_of_isDigit {c d : Char} (digit : c.isDigit = true) (other : d.isDigit = false) :
    c ≠ d := by
  rintro rfl
  rw [digit] at other
  cases other

theorem isBlank_of_isDigit {c : Char} (digit : c.isDigit = true) : isBlank c = false := by
  simp [ne_of_isDigit digit (d := ' ') rfl, ne_of_isDigit digit (d := '\t') rfl,
    ne_of_isDigit digit (d := '\n') rfl, ne_of_isDigit digit (d := '\r') rfl]

/-- A number is told by the character that it begins with. -/
theorem Reaches.number (numeral : Numeral) {rest : List Char} (ends : EndsNumber rest) :
    Reaches ⟨.value, stack, seen, numeral.text ++ rest⟩
      ⟨.afterValue, stack, .number numeral.number :: seen, rest⟩ := by
  have read := numeral.scan_text ends
  rcases numeral.exists_cons with ⟨c, more, written, front⟩
  rw [written, List.cons_append] at read ⊢
  refine .step (by simp only [List.length_cons, List.length_append]; omega) fun fuel => ?_
  rcases front with rfl | digit
  · simp [read]
  · have other : ∀ {d}, d.isDigit = false → c ≠ d := ne_of_isDigit digit
    simp only [Place.scan, scanFrom, List.dropWhile_cons, isBlank_of_isDigit digit]
    split <;> simp_all

theorem Reaches.opening (container : Container) (rest : List Char) :
    Reaches ⟨.value, stack, seen, container.opening :: rest⟩
      ⟨container.first, container :: stack, container.beginning :: seen, rest⟩ := by
  refine .step (by simp) fun fuel => ?_
  cases container <;> simp [Container.opening, Container.first, Container.beginning]

theorem Reaches.closing_first (container : Container) (rest : List Char) :
    Reaches ⟨container.first, container :: stack, seen, container.closing :: rest⟩
      ⟨.afterValue, stack, container.ending :: seen, rest⟩ := by
  refine .step (by simp) fun fuel => ?_
  cases container <;> simp [Container.closing, Container.first, Container.ending]

theorem Reaches.closing (container : Container) (rest : List Char) :
    Reaches ⟨.afterValue, container :: stack, seen, container.closing :: rest⟩
      ⟨.afterValue, stack, container.ending :: seen, rest⟩ := by
  refine .step (by simp) fun fuel => ?_
  cases container <;> simp [Container.closing, Container.ending]

theorem Reaches.comma (container : Container) (rest : List Char) :
    Reaches ⟨.afterValue, container :: stack, seen, ',' :: rest⟩
      ⟨container.further, container :: stack, .comma :: seen, rest⟩ := by
  refine .step (by simp) fun fuel => ?_
  cases container <;> simp [Container.further]

end Steps

/-- The first element of an array is read as any value. -/
theorem scan_firstElement (stack : List Container) (seen : List Event) {text : List Char}
    (other : (text.dropWhile isBlank).head? ≠ some ']') :
    ∀ fuel, Place.scan fuel ⟨.firstElement, .array :: stack, seen, text⟩ =
      Place.scan fuel ⟨.value, .array :: stack, seen, text⟩ := by
  intro fuel
  cases fuel with
  | zero => rfl
  | succ fuel =>
      simp only [Place.scan]
      rw [scanFrom.eq_def, scanFrom.eq_def (fuel + 1) .value]
      simp only
      generalize text.dropWhile isBlank = front at other
      rcases front with _ | ⟨c, rest⟩
      · rfl
      · have open_array : c ≠ ']' := fun same => other (same ▸ rfl)
        split <;> simp_all

/-! ## Where a number ends -/

theorem endsNumber_nil : EndsNumber [] := by
  rintro c ⟨⟩

theorem endsNumber_comma (rest : List Char) : EndsNumber (',' :: rest) := by
  rintro c ⟨⟩
  decide

theorem EndsNumber.blanks {blanks rest : List Char} (blank : ∀ c ∈ blanks, isBlank c = true)
    (ends : EndsNumber rest) : EndsNumber (blanks ++ rest) := by
  cases blanks with
  | nil => exact ends
  | cons c blanks =>
      rintro d ⟨⟩
      have known := blank c List.mem_cons_self
      simp only [isBlank, Bool.or_eq_true, decide_eq_true_eq] at known
      rcases known with ((rfl | rfl) | rfl) | rfl <;> decide

/-! ## Texts of values -/

/-- A text that is read as a value with the given events. -/
def IsValue (text : List Char) (events : List Event) : Prop :=
  ∀ (stack : List Container) (seen : List Event) (rest : List Char), EndsNumber rest →
    Reaches ⟨.value, stack, seen, text ++ rest⟩
      ⟨.afterValue, stack, events.reverse ++ seen, rest⟩

/-- A text that is read as an item of a container, the first one or a further one. -/
def IsItem (container : Container) (text : List Char) (events : List Event) : Prop :=
  ∀ expected : Expectation, expected = container.first ∨ expected = container.further →
    ∀ (stack : List Container) (seen : List Event) (rest : List Char), EndsNumber rest →
      Reaches ⟨expected, container :: stack, seen, text ++ rest⟩
        ⟨.afterValue, container :: stack, events.reverse ++ seen, rest⟩

theorem IsItem.element {text : List Char} {events : List Event} (value : IsValue text events)
    (other : ∀ rest, ((text ++ rest).dropWhile isBlank).head? ≠ some ']') :
    IsItem .array text events := by
  intro expected awaited stack seen rest ends
  have reached := value (.array :: stack) seen rest ends
  rcases awaited with rfl | rfl
  · obtain ⟨steps, fewer, scans⟩ := reached
    refine ⟨steps, fewer, fun fuel => ?_⟩
    rw [← scans]
    exact scan_firstElement stack seen (other rest) _
  · exact reached

theorem IsItem.entry {entry : Entry} {events : List Event} (keyed : entry.Keyed)
    (value : IsValue entry.text events) :
    IsItem .object entry.written (.key (some entry.key) :: events) := by
  intro expected awaited stack seen rest ends
  have front := Reaches.blanks expected (.object :: stack) seen keyed.before
    ('"' :: (entry.body ++ '"' :: (entry.after ++ ':' :: (entry.text ++ rest))))
  have key := Reaches.key (.object :: stack) seen awaited keyed.body
    (entry.after ++ ':' :: (entry.text ++ rest))
  have gap := Reaches.blanks .colon (.object :: stack) (.key (some entry.key) :: seen) keyed.after
    (':' :: (entry.text ++ rest))
  have colon := Reaches.colon (.object :: stack) (.key (some entry.key) :: seen)
    (entry.text ++ rest)
  have last := value (.object :: stack) (.key (some entry.key) :: seen) rest ends
  have whole := front.trans (key.trans (gap.trans (colon.trans last)))
  simpa [Entry.written] using whole

/-- Items after the first, with what follows the last of them. -/
theorem Reaches.further {container : Container} (stack : List Container) (seen : List Event)
    {items : List (List Char × List Event)} (all : ∀ item ∈ items, IsItem container item.1 item.2)
    {rest : List Char} (ends : EndsNumber rest) :
    EndsNumber ((items.flatMap fun item => ',' :: item.1) ++ rest) ∧
      Reaches
        ⟨.afterValue, container :: stack, seen, (items.flatMap fun item => ',' :: item.1) ++ rest⟩
        ⟨.afterValue, container :: stack,
          (items.flatMap fun item => .comma :: item.2).reverse ++ seen, rest⟩ := by
  induction items generalizing seen with
  | nil => exact ⟨ends, 0, by simp, fun fuel => rfl⟩
  | cons item items ih =>
      obtain ⟨endsItem, reached⟩ :=
        ih (item.2.reverse ++ .comma :: seen) fun item member => all item (.tail _ member)
      refine ⟨endsNumber_comma _, ?_⟩
      have here := all item (.head _) _ (.inr rfl) stack (.comma :: seen) _ endsItem
      have comma := Reaches.comma stack seen container
        (item.1 ++ ((items.flatMap fun item => ',' :: item.1) ++ rest))
      simpa using comma.trans (here.trans reached)

theorem endsNumber_closing (container : Container) (rest : List Char) :
    EndsNumber (container.closing :: rest) := by
  rintro c ⟨⟩
  cases container <;> decide

/-- Items between brackets. -/
theorem IsValue.items (container : Container) {items : List (List Char × List Event)}
    (all : ∀ item ∈ items, IsItem container item.1 item.2) {blanks : List Char}
    (blank : ∀ c ∈ blanks, isBlank c = true) :
    IsValue
      (container.opening :: (commaSeparated (items.map (·.1)) ++ (blanks ++ [container.closing])))
      (container.beginning :: (itemEvents (items.map (·.2)) ++ [container.ending])) := by
  intro stack seen rest ends
  cases items with
  | nil =>
      have opened := Reaches.opening stack seen container (blanks ++ container.closing :: rest)
      have gap := Reaches.blanks container.first (container :: stack) (container.beginning :: seen)
        blank (container.closing :: rest)
      have closed := Reaches.closing_first stack (container.beginning :: seen) container rest
      simpa [commaSeparated, itemEvents] using opened.trans (gap.trans closed)
  | cons item items =>
      obtain ⟨endsItem, reached⟩ := Reaches.further stack
        (item.2.reverse ++ container.beginning :: seen)
        (fun item member => all item (.tail _ member))
        ((endsNumber_closing container rest).blanks blank)
      have opened := Reaches.opening stack seen container
        (item.1 ++ ((items.flatMap fun item => ',' :: item.1) ++
          (blanks ++ container.closing :: rest)))
      have here := all item (.head _) _ (.inl rfl) stack (container.beginning :: seen) _ endsItem
      have gap := Reaches.blanks .afterValue (container :: stack)
        ((items.flatMap fun item => .comma :: item.2).reverse ++
          (item.2.reverse ++ container.beginning :: seen)) blank (container.closing :: rest)
      have closed := Reaches.closing stack
        ((items.flatMap fun item => .comma :: item.2).reverse ++
          (item.2.reverse ++ container.beginning :: seen)) container rest
      have whole := opened.trans (here.trans (reached.trans (gap.trans closed)))
      simpa [commaSeparated, itemEvents, List.flatMap_map] using whole

theorem IsValue.padded {left text right : List Char} {events : List Event}
    (before : ∀ c ∈ left, isBlank c = true) (value : IsValue text events)
    (after : ∀ c ∈ right, isBlank c = true) : IsValue (left ++ (text ++ right)) events := by
  intro stack seen rest ends
  have front := Reaches.blanks .value stack seen before (text ++ (right ++ rest))
  have here := value stack seen (right ++ rest) (ends.blanks after)
  have back := Reaches.blanks .afterValue stack (events.reverse ++ seen) after rest
  simpa using front.trans (here.trans back)

/-- A text of a value does not begin with the end of an array. -/
theorem IsJson.head?_ne {text : List Char} {value : Value} (json : IsJson text value)
    (rest : List Char) : ((text ++ rest).dropWhile isBlank).head? ≠ some ']' := by
  induction json generalizing rest with
  | null => simp [isBlank]
  | bool value => cases value <;> simp [isBlank]
  | number numeral =>
      rcases numeral.exists_cons with ⟨c, more, written, front⟩
      rw [written, List.cons_append]
      rcases front with rfl | digit
      · simp [isBlank]
      · rw [List.dropWhile_cons_of_neg (Bool.eq_false_iff.mp (isBlank_of_isDigit digit))]
        exact fun same => ne_of_isDigit digit rfl (Option.some.inj same)
  | string quoted => simp [isBlank]
  | array all blank ih => simp [isBlank]
  | object keys values blank ih => simp [isBlank]
  | padded before json after ih =>
      rw [List.append_assoc, List.append_assoc, List.dropWhile_append_of_pos before]
      exact ih _

/-- A text of a value is read as the events of the value. -/
theorem IsJson.isValue {text : List Char} {value : Value} (json : IsJson text value) :
    IsValue text value.events := by
  induction json with
  | null => exact fun stack seen rest _ => .null stack seen rest
  | bool value => exact fun stack seen rest _ => .bool stack seen value rest
  | number numeral => exact fun stack seen rest ends => .number stack seen numeral ends
  | string quoted =>
      intro stack seen rest _
      have reached := Reaches.string stack seen quoted rest
      simpa [Value.events] using reached
  | @array elements blanks all blank ih =>
      have items : ∀ item ∈ elements.map fun element => (element.1, element.2.events),
          IsItem .array item.1 item.2 := by
        intro item member
        rcases List.mem_map.mp member with ⟨element, listed, rfl⟩
        exact .element (ih element listed) (all element listed).head?_ne
      have value := IsValue.items .array items blank
      rw [List.map_map, List.map_map] at value
      rw [Value.events, elementEvents_eq_map, List.map_map]
      exact value
  | @object entries blanks keys values blank ih =>
      have items : ∀ item ∈ entries.map fun entry =>
          (entry.written, .key (some entry.key) :: entry.value.events),
          IsItem .object item.1 item.2 := by
        intro item member
        rcases List.mem_map.mp member with ⟨entry, listed, rfl⟩
        exact .entry (keys entry listed) (ih entry listed)
      have value := IsValue.items .object items blank
      rw [List.map_map, List.map_map] at value
      rw [Value.events, memberEvents_eq_map, List.map_map]
      exact value
  | padded before json after ih => exact .padded before ih after

/-- A text that is one value has the events of that value and no others. -/
theorem IsValue.scan {text : List Char} {events : List Event} (value : IsValue text events) :
    scan text = ⟨events, none⟩ := by
  obtain ⟨steps, fewer, scans⟩ := value [] [] [] endsNumber_nil
  simp only [List.append_nil, List.length_nil, Nat.add_zero] at fewer scans
  have fuel : 2 * text.length + 2 = 2 * text.length - steps + 1 + 1 + steps := by omega
  have reached := scans (2 * text.length - steps + 1 + 1)
  rw [← fuel] at reached
  simpa [Place.scan, Json.scan, scanFrom] using reached

end Json
end PodCommand
