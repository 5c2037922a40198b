import PodCommand.Proofs.Json.Reading
import PodCommand.Settings

namespace PodCommand
namespace Settings

open Json (Value Gives)

/-!
What is read of an object as settings.

`Shows` is what the value of a field says of settings, and `Adopts` is that for all members of an
object at once, wherever they stand in it and whatever else the object holds.  The reader takes the
members one by one, and what it has read so far is only what it starts from for the others; so what
it comes to is settings that adopt the object, and it fails exactly if there are none.
-/

/-! ## Fields -/

/-- Settings have in a field what a value says. -/
def Shows (settings : Settings) : Field → Value → Prop
  | .kubeconfig, value => value = Json.textValue settings.kubeconfig
  | .context, value => value = Json.textValue settings.context
  | .ns, value => value = .string settings.ns.toList
  | .container, value => value = Json.textValue settings.container
  | .command, value => value = .array (settings.command.map fun word => .string word.toList)
  | .timeoutSecs, value =>
    match settings.timeoutSecs with
    | none => value = .null
    | some seconds => ∃ numeral, value = .number numeral ∧ numeral.IsNatural seconds.toNat

/-- Settings have the same in a field as others. -/
def Agrees (settings other : Settings) : Field → Prop
  | .kubeconfig => settings.kubeconfig = other.kubeconfig
  | .context => settings.context = other.context
  | .ns => settings.ns = other.ns
  | .container => settings.container = other.container
  | .command => settings.command = other.command
  | .timeoutSecs => settings.timeoutSecs = other.timeoutSecs

/-- Settings with one field taken from others. -/
def adopt (source : Settings) (settings : Settings) : Field → Settings
  | .kubeconfig => { settings with kubeconfig := source.kubeconfig }
  | .context => { settings with context := source.context }
  | .ns => { settings with ns := source.ns }
  | .container => { settings with container := source.container }
  | .command => { settings with command := source.command }
  | .timeoutSecs => { settings with timeoutSecs := source.timeoutSecs }

section

variable {settings other : Settings} {field : Field} {value : Value}

theorem eq_of_agrees (agrees : ∀ field, settings.Agrees other field) : settings = other := by
  rcases settings with ⟨kubeconfig, context, ns, container, command, timeoutSecs⟩
  rcases other with ⟨kubeconfig', context', ns', container', command', timeoutSecs'⟩
  cases agrees .kubeconfig
  cases agrees .context
  cases agrees .ns
  cases agrees .container
  cases agrees .command
  cases agrees .timeoutSecs
  rfl

theorem Agrees.symm (agrees : settings.Agrees other field) : other.Agrees settings field := by
  cases field <;> exact Eq.symm agrees

theorem Agrees.trans {third : Settings} (first : settings.Agrees other field)
    (second : other.Agrees third field) : settings.Agrees third field := by
  cases field <;> exact Eq.trans first second

theorem agrees_adopt (source settings : Settings) (field : Field) :
    (source.adopt settings field).Agrees source field := by
  cases field <;> rfl

theorem adopt_agrees {other : Field} (different : other ≠ field) (source settings : Settings) :
    (source.adopt settings field).Agrees settings other := by
  cases field <;> cases other <;> first | rfl | exact absurd rfl different

theorem Shows.of_agrees (told : other.Shows field value) (agrees : settings.Agrees other field) :
    settings.Shows field value := by
  cases field <;> simp only [Agrees] at agrees <;> simpa only [Shows, agrees] using told

theorem textValue_injective {first second : Option String}
    (same : Json.textValue first = Json.textValue second) : first = second := by
  cases first <;> cases second <;> simp_all [Json.textValue, String.toList_inj]

/-- A value says one thing of a field. -/
theorem Shows.agrees (first : settings.Shows field value) (second : other.Shows field value) :
    settings.Agrees other field := by
  cases field with
  | kubeconfig => exact textValue_injective (first.symm.trans second)
  | context => exact textValue_injective (first.symm.trans second)
  | container => exact textValue_injective (first.symm.trans second)
  | ns => exact String.toList_injective (Value.string.inj (first.symm.trans second))
  | command =>
      have same := Value.array.inj (first.symm.trans second)
      refine List.map_injective_iff.mpr (fun word word' equal => ?_) same
      exact String.toList_injective (Value.string.inj equal)
  | timeoutSecs =>
      unfold Shows at first second
      unfold Agrees
      dsimp only at first second ⊢
      split at first <;> split at second
      · simp_all
      · simp_all
      · simp_all
      · rename_i seconds given _ seconds' given'
        rcases first with ⟨numeral, rfl, natural⟩
        rcases second with ⟨numeral', same, natural'⟩
        cases same
        have equal : seconds.toNat = seconds'.toNat := natural.value.symm.trans natural'.value
        rw [given, given', UInt64.toNat_inj.mp equal]

end

/-- Settings take the value of a field and leave the other fields as they were. -/
structure Takes (settings : Settings) (field : Field) (value : Value) (later : Settings) :
    Prop where
  told : later.Shows field value
  kept : ∀ other, other ≠ field → later.Agrees settings other

/-- Putting what a value means into a field is taking the value. -/
theorem takes_iff {settings : Settings} {value : Value} {α : Type} {means : α → Prop}
    (field : Field) (put : α → Settings) (get : Settings → α)
    (shows_iff : ∀ later : Settings, later.Shows field value ↔ means (get later))
    (get_put : ∀ a, means a → get (put a) = a)
    (put_get : ∀ later, (put (get later)).Agrees later field)
    (kept : ∀ a, put a = (put a).adopt settings field) (later : Settings) :
    settings.Takes field value later ↔ ∃ a, means a ∧ put a = later := by
  have others : ∀ a other, other ≠ field → (put a).Agrees settings other := by
    intro a other different
    rw [kept a]
    exact adopt_agrees different _ _
  constructor
  · intro takes
    refine ⟨get later, (shows_iff later).mp takes.told, eq_of_agrees fun other => ?_⟩
    by_cases same : other = field
    · rw [same]
      exact put_get later
    · exact (others _ other same).trans (takes.kept other same).symm
  · rintro ⟨a, is, rfl⟩
    refine ⟨(shows_iff _).mpr ?_, others a⟩
    rwa [get_put a is]

/-- The value of a field is taken, or there is an error if it says nothing of the field. -/
theorem readField_gives (settings : Settings) (field : Field) (value : Value)
    (rest : List Json.Event) (problem : Option Json.Problem) :
    Gives (settings.Takes field value) ⟨rest, problem⟩
      (readField settings field ⟨value.events ++ rest, problem⟩) := by
  cases field with
  | kubeconfig =>
      exact (Json.reads_text? value rest problem).map _
        (takes_iff .kubeconfig (fun text => { settings with kubeconfig := text })
          Settings.kubeconfig (fun _ => Iff.rfl) (fun _ _ => rfl) (fun _ => rfl) fun _ => rfl)
  | context =>
      exact (Json.reads_text? value rest problem).map _
        (takes_iff .context (fun text => { settings with context := text }) Settings.context
          (fun _ => Iff.rfl) (fun _ _ => rfl) (fun _ => rfl) fun _ => rfl)
  | container =>
      exact (Json.reads_text? value rest problem).map _
        (takes_iff .container (fun text => { settings with container := text }) Settings.container
          (fun _ => Iff.rfl) (fun _ _ => rfl) (fun _ => rfl) fun _ => rfl)
  | ns =>
      exact (Json.reads_string value rest problem).map _
        (takes_iff .ns (fun text => { settings with ns := String.ofList text })
          (fun later => later.ns.toList) (fun _ => Iff.rfl) (fun text _ => String.toList_ofList)
          (fun later => String.ofList_toList) fun _ => rfl)
  | command =>
      refine (Json.reads_string.array value rest problem).map _
        (takes_iff .command (fun words => { settings with command := words.map String.ofList })
          (fun later => later.command.map String.toList) ?_ ?_ ?_ fun _ => rfl)
      · intro later
        constructor
        · intro told
          refine ⟨_, told, ?_⟩
          rw [List.forall₂_map_left_iff, List.forall₂_map_right_iff, List.forall₂_same]
          exact fun _ _ => rfl
        · rintro ⟨values, rfl, texts⟩
          have same : values = (later.command.map String.toList).map .string := by
            rw [← List.forall₂_eq_eq_eq, List.forall₂_map_right_iff]
            exact texts
          rw [same, List.map_map]
          rfl
      · intro words _
        simp
      · intro later
        change (later.command.map String.toList).map String.ofList = later.command
        simp
  | timeoutSecs =>
      refine ((Json.reads_natural UInt64.size).optional value rest problem).map _
        (takes_iff .timeoutSecs
          (fun seconds => { settings with timeoutSecs := seconds.map (·.toUInt64) })
          (fun later => later.timeoutSecs.map UInt64.toNat) ?_ ?_ ?_ fun _ => rfl)
      · intro later
        unfold Shows
        cases later.timeoutSecs with
        | none => exact Iff.rfl
        | some seconds => exact ⟨fun told => ⟨seconds.toNat_lt, told⟩, And.right⟩
      · intro seconds small
        cases seconds with
        | none => rfl
        | some n =>
            have whole : n.toUInt64.toNat = n := UInt64.toNat_ofNat_of_lt' small.1
            simp [whole]
      · intro later
        change (later.timeoutSecs.map UInt64.toNat).map Nat.toUInt64 = later.timeoutSecs
        cases later.timeoutSecs <;> simp

/-! ## Members -/

/-- Settings have in every field what the member with its key says, and in the fields without a
member what others have. -/
structure Adopts (settings : Settings) (members : List (List Char × Value)) (later : Settings) :
    Prop where
  told : ∀ (field : Field) value, (field.key.toList, value) ∈ members → later.Shows field value
  kept : ∀ field : Field, field.key.toList ∉ members.map Prod.fst → later.Agrees settings field

theorem ofKey?_key (field : Field) : Field.ofKey? field.key.toList = some field := by
  cases field <;> rfl

theorem key_of_ofKey? {key : List Char} {field : Field} (known : Field.ofKey? key = some field) :
    field.key.toList = key := by
  have found := List.find?_some known
  exact beq_iff_eq.mp found

theorem key_injective {field other : Field} (same : field.key.toList = other.key.toList) :
    field = other := by
  have known := ofKey?_key field
  rw [same, ofKey?_key] at known
  exact (Option.some.inj known).symm

section

variable {settings between later : Settings} {field : Field} {key : List Char} {value : Value}
  {members : List (List Char × Value)}

theorem Shows.takes (told : later.Shows field value) (settings : Settings) :
    settings.Takes field value (later.adopt settings field) where
  told := told.of_agrees (agrees_adopt later settings field)
  kept _ different := adopt_agrees different later settings

theorem adopts_nil : settings.Adopts [] settings :=
  ⟨fun _ _ member => absurd member List.not_mem_nil, fun field _ => by cases field <;> rfl⟩

/-- A member with a key of no field is passed over. -/
theorem adopts_foreign (foreign : Field.ofKey? key = none) :
    settings.Adopts ((key, value) :: members) later ↔ settings.Adopts members later := by
  have other : ∀ field : Field, field.key.toList ≠ key := by
    rintro field rfl
    rw [ofKey?_key] at foreign
    cases foreign
  constructor
  · intro adopts
    refine ⟨fun field told member => adopts.told field told (List.mem_cons_of_mem _ member),
      fun field absent => adopts.kept field ?_⟩
    rw [List.map_cons, List.mem_cons, not_or]
    exact ⟨other field, absent⟩
  · intro adopts
    refine ⟨fun field told member => ?_, fun field absent => adopts.kept field fun member => ?_⟩
    · rcases List.mem_cons.mp member with same | later
      · exact absurd (Prod.mk.inj same).1 (other field)
      · exact adopts.told field told later
    · exact absent (List.mem_cons_of_mem _ member)

/-- A member of a field is taken first, and then the others, none of which has its key. -/
theorem adopts_field (takes : settings.Takes field value between)
    (fresh : field.key.toList ∉ members.map Prod.fst) :
    settings.Adopts ((field.key.toList, value) :: members) later ↔
      between.Adopts members later := by
  constructor
  · intro adopts
    refine ⟨fun other told member => adopts.told other told (List.mem_cons_of_mem _ member),
      fun other absent => ?_⟩
    by_cases same : other = field
    · rw [same]
      exact (adopts.told field value List.mem_cons_self).agrees takes.told
    · refine (adopts.kept other ?_).trans (takes.kept other same).symm
      rw [List.map_cons, List.mem_cons, not_or]
      exact ⟨fun equal => same (key_injective equal), absent⟩
  · intro adopts
    refine ⟨fun other told member => ?_, fun other absent => ?_⟩
    · rcases List.mem_cons.mp member with same | later
      · cases key_injective (Prod.mk.inj same).1
        rw [(Prod.mk.inj same).2]
        exact takes.told.of_agrees (adopts.kept _ fresh)
      · exact adopts.told other told later
    · rw [List.map_cons, List.mem_cons, not_or] at absent
      have different : other ≠ field := by
        rintro rfl
        exact absent.1 rfl
      exact (adopts.kept other absent.2).trans (takes.kept other different)

end

/-- The members of an object are adopted one by one.  A field that has been read before is refused,
but none is where no two members have one key. -/
theorem readMembers_gives (members : List (List Char × Value)) (settings : Settings)
    (known : List Field) (fuel : Nat) (distinct : (members.map Prod.fst).Nodup)
    (fresh : ∀ field ∈ known, field.key.toList ∉ members.map Prod.fst)
    (enough : (Json.furtherEvents (Json.memberEvents members)).length < fuel)
    (rest : List Json.Event) (problem : Option Json.Problem) :
    Gives (fun state => settings.Adopts members state.1) ⟨rest, problem⟩
      (Json.readMembers readMember fuel (settings, known)
        ⟨Json.furtherEvents (Json.memberEvents members) ++ .endObject :: rest, problem⟩) := by
  induction members generalizing settings known fuel with
  | nil =>
      obtain ⟨fuel, rfl⟩ := Nat.exists_eq_add_of_lt enough
      exact .ok adopts_nil
  | cons member members ih =>
      rcases member with ⟨key, value⟩
      rw [List.map_cons, List.nodup_cons] at distinct
      have rests : ∀ field ∈ known, field.key.toList ∉ members.map Prod.fst :=
        fun field member found => fresh field member (List.mem_cons_of_mem _ found)
      have split : Json.furtherEvents (Json.memberEvents ((key, value) :: members)) =
          .comma :: .key (some key) :: (value.events ++
            Json.furtherEvents (Json.memberEvents members)) :=
        Json.furtherEvents_cons _ _
      rw [split, List.length_cons, List.length_cons, List.length_append] at enough
      obtain ⟨fuel, rfl⟩ : ∃ more, fuel = more + 2 := ⟨fuel - 2, by omega⟩
      have fewer : (Json.furtherEvents (Json.memberEvents members)).length < fuel := by omega
      rw [split, List.cons_append, List.cons_append, List.append_assoc]
      change Gives _ _ (readMember (settings, known) key ⟨value.events ++
        (Json.furtherEvents (Json.memberEvents members) ++ .endObject :: rest), problem⟩ >>=
          fun read => Json.readMembers readMember fuel read.1 read.2)
      cases named : Field.ofKey? key with
      | none =>
          have skipped (more : List Json.Event) :
              readMember (settings, known) key ⟨value.events ++ more, problem⟩ =
                .ok ((settings, known), ⟨more, problem⟩) := by
            simp only [readMember, named, Json.skipValue_value]
            rfl
          rw [skipped]
          refine (ih settings known fuel distinct.2 rests fewer).imp (fun _ => ?_) fun none _ => ?_
          · exact (adopts_foreign named).mpr
          · exact fun adopts => none _ ((adopts_foreign named).mp adopts)
      | some field =>
          obtain rfl := key_of_ofKey? named
          have unknown : field ∉ known := fun member => fresh field member List.mem_cons_self
          have taken (transcript : Json.Transcript) :
              readMember (settings, known) field.key.toList transcript =
                readField settings field transcript >>= fun read =>
                  .ok ((read.1, field :: known), read.2) := by
            simp only [readMember, named, List.contains_eq_mem, unknown, decide_false,
              Bool.false_eq_true, if_false]
            rfl
          rw [taken, bind_assoc]
          refine (readField_gives settings field value _ problem).bind (fun between takes => ?_)
            fun none state adopts => ?_
          · have others : ∀ other ∈ field :: known, other.key.toList ∉ members.map Prod.fst := by
              intro other member
              rcases List.mem_cons.mp member with rfl | earlier
              · exact distinct.1
              · exact rests other earlier
            refine (ih between (field :: known) fuel distinct.2 others fewer).imp (fun _ => ?_)
              fun none _ => ?_
            · exact (adopts_field takes distinct.1).mpr
            · exact fun adopts => none _ ((adopts_field takes distinct.1).mp adopts)
          · exact none _ ((adopts.told field value List.mem_cons_self).takes settings)

/-! ## Objects -/

/-- A text of an object is read as the settings that adopt it, or not at all if there are none. -/
inductive Parses (members : List (List Char × Value)) : Except Json.Problem Settings → Prop
  | ok {settings : Settings} (adopts : default.Adopts members settings) :
      Parses members (.ok settings)
  | error {problem : Json.Problem} (none : ∀ settings, ¬ default.Adopts members settings) :
      Parses members (.error problem)

theorem parse_object {text : List Char} {members : List (List Char × Value)}
    (json : Json.IsJson text (.object members)) (distinct : (members.map Prod.fst).Nodup) :
    Parses members (parse text) := by
  have read : Gives (fun state => default.Adopts members state.1) ⟨[], none⟩
      (Json.readMembers readMember
        ((Json.itemEvents (Json.memberEvents members) ++ [Json.Event.endObject]).length + 1)
        (default, [])
        ⟨Json.itemEvents (Json.memberEvents members) ++ [.endObject], none⟩) := by
    cases members with
    | nil => exact .ok adopts_nil
    | cons member members =>
        -- The first member is read as if there were a comma before it.
        have behind := readMembers_gives (member :: members) default []
          ((Json.itemEvents (Json.memberEvents (member :: members)) ++
            [Json.Event.endObject]).length + 2) distinct
          fun _ known => absurd known List.not_mem_nil
        refine behind ?_ [] none
        have short := Json.length_furtherEvents_le (Json.memberEvents (member :: members))
        rw [List.length_append]
        omega
  have finished : ∀ {result},
      Gives (fun state => default.Adopts members state.1) ⟨[], none⟩ result →
      Parses members (result >>= fun read : (Settings × List Field) × Json.Transcript =>
        Json.finish (read.1.1, read.2)) := by
    intro result gives
    cases gives with
    | ok adopts => exact .ok adopts
    | error none => exact .error fun settings adopts => none (settings, []) adopts
  rw [parse, json.isValue.scan, Value.events]
  exact finished read

end Settings
end PodCommand
