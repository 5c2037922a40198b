import Mathlib.Data.List.Nodup
import PodCommand.Proofs.Files
import PodCommand.Proofs.Json.Printing
import PodCommand.Proofs.Settings.Fields
import PodCommand.Proofs.Text.Utf8
import PodCommand.Settings.Storage

namespace PodCommand

open Json (Value)

/-!
A file of settings is read by field, not by layout.

Of the object in a file only the values of the fields matter, where a field without a member has the
value that stands for its absence.  So the order of the members, the white space between tokens and
the members with other keys make no difference, and what is wrong with a file is always the type of
some field.
-/

namespace Settings

/-! ## The type of a field -/

namespace Field

/-- The values that a field may have. -/
def Admits : Field → Value → Prop
  | .kubeconfig, value | .context, value | .container, value =>
    value = .null ∨ ∃ text, value = .string text
  | .ns, value => ∃ text, value = .string text
  | .command, value => ∃ words : List (List Char), value = .array (words.map .string)
  | .timeoutSecs, value =>
    value = .null ∨ ∃ numeral n, value = .number numeral ∧ numeral.IsNatural n ∧ n < UInt64.size

/-- The value that stands for the absence of a field. -/
def absent : Field → Value
  | .ns => .string "default".toList
  | .command => .array []
  | _ => .null

end Field

/-- The value of a field in an object. -/
inductive HasValue (members : List (List Char × Value)) (field : Field) : Value → Prop
  | given {value : Value} (member : (field.key.toList, value) ∈ members) :
      HasValue members field value
  | absent (missing : field.key.toList ∉ members.map Prod.fst) :
      HasValue members field field.absent

section

variable {members : List (List Char × Value)} {field : Field} {value : Value}

theorem exists_textValue {get : Settings → Option String} {put : Option String → Settings}
    (get_put : ∀ text, get (put text) = text) :
    (value = .null ∨ ∃ text, value = .string text) ↔
      ∃ settings, value = Json.textValue (get settings) := by
  constructor
  · rintro (rfl | ⟨text, rfl⟩)
    · refine ⟨put none, ?_⟩
      rw [get_put]
      rfl
    · refine ⟨put (some (String.ofList text)), ?_⟩
      rw [get_put, Json.textValue, String.toList_ofList]
  · rintro ⟨settings, rfl⟩
    cases get settings with
    | none => exact Or.inl rfl
    | some text => exact Or.inr ⟨text.toList, rfl⟩

/-- The values of a field's type are those that settings can have in it. -/
theorem admits_iff : field.Admits value ↔ ∃ settings : Settings, settings.Shows field value := by
  cases field with
  | kubeconfig =>
      have get_put (text : Option String) :
          { default with kubeconfig := text }.kubeconfig = text := rfl
      exact exists_textValue get_put
  | context =>
      have get_put (text : Option String) :
          { default with context := text }.context = text := rfl
      exact exists_textValue get_put
  | container =>
      have get_put (text : Option String) :
          { default with container := text }.container = text := rfl
      exact exists_textValue get_put
  | ns =>
      constructor
      · rintro ⟨text, rfl⟩
        refine ⟨{ default with ns := String.ofList text }, ?_⟩
        rw [Shows, String.toList_ofList]
      · rintro ⟨settings, told⟩
        exact ⟨_, told⟩
  | command =>
      constructor
      · rintro ⟨words, rfl⟩
        refine ⟨{ default with command := words.map String.ofList }, ?_⟩
        rw [Shows, List.map_map]
        congr 2
        funext word
        exact congrArg Value.string String.toList_ofList.symm
      · rintro ⟨settings, told⟩
        refine ⟨settings.command.map String.toList, ?_⟩
        rw [List.map_map]
        exact told
  | timeoutSecs =>
      constructor
      · rintro (rfl | ⟨numeral, n, rfl, natural, small⟩)
        · exact ⟨default, rfl⟩
        · refine ⟨{ default with timeoutSecs := some n.toUInt64 }, numeral, rfl, ?_⟩
          have whole : n.toUInt64.toNat = n := UInt64.toNat_ofNat_of_lt' small
          rwa [whole]
      · rintro ⟨settings, told⟩
        unfold Shows at told
        dsimp only at told
        split at told
        · exact Or.inl told
        · rcases told with ⟨numeral, rfl, natural⟩
          exact Or.inr ⟨numeral, _, rfl, natural, UInt64.toNat_lt _⟩

theorem shows_absent (field : Field) : default.Shows field field.absent := by
  cases field <;> rfl

/-- Settings adopt an object if they have the values of all fields. -/
theorem adopts_default {settings : Settings} :
    default.Adopts members settings ↔
      ∀ field value, HasValue members field value → settings.Shows field value := by
  constructor
  · rintro adopts field value (member | missing)
    · exact adopts.told field value member
    · exact (shows_absent field).of_agrees (adopts.kept field missing)
  · intro has
    refine ⟨fun field value member => has field value (.given member), fun field missing => ?_⟩
    exact (has field _ (.absent missing)).agrees (shows_absent field)

/-- No field has two values where no two members have one key. -/
theorem HasValue.unique (distinct : (members.map Prod.fst).Nodup) {other : Value}
    (first : HasValue members field value) (second : HasValue members field other) :
    value = other := by
  rcases first with member | missing
  · rcases second with member' | missing'
    · exact congrArg Prod.snd (List.inj_on_of_nodup_map distinct member member' rfl)
    · exact absurd (List.mem_map_of_mem member) missing'
  · rcases second with member' | _
    · exact absurd (List.mem_map_of_mem member') missing
    · rfl

theorem exists_hasValue (members : List (List Char × Value)) (field : Field) :
    ∃ value, HasValue members field value := by
  by_cases found : field.key.toList ∈ members.map Prod.fst
  · rcases List.mem_map.mp found with ⟨⟨key, value⟩, member, same⟩
    cases same
    exact ⟨value, .given member⟩
  · exact ⟨_, .absent found⟩

/-- There are settings with the values of all fields exactly if each of the values given is of its
field's type. -/
theorem exists_adopts (distinct : (members.map Prod.fst).Nodup) :
    (∃ settings, default.Adopts members settings) ↔
      ∀ (field : Field) value, (field.key.toList, value) ∈ members → field.Admits value := by
  constructor
  · rintro ⟨settings, adopts⟩ field value member
    exact admits_iff.mpr ⟨settings, adopts.told field value member⟩
  · intro typed
    have shown : ∀ field, ∃ source : Settings, ∀ value, HasValue members field value →
        source.Shows field value := by
      intro field
      rcases exists_hasValue members field with ⟨value, has⟩
      have admitted : ∃ source : Settings, source.Shows field value := by
        rcases has with member | missing
        · exact admits_iff.mp (typed field value member)
        · exact ⟨default, shows_absent field⟩
      rcases admitted with ⟨source, told⟩
      exact ⟨source, fun other has' => has.unique distinct has' ▸ told⟩
    rcases Classical.skolem.mp shown with ⟨source, told⟩
    have agrees : ∀ field, Agrees ⟨(source .kubeconfig).kubeconfig, (source .context).context,
        (source .ns).ns, (source .container).container, (source .command).command,
        (source .timeoutSecs).timeoutSecs⟩ (source field) field := by
      intro field
      cases field <;> rfl
    exact ⟨_, adopts_default.mpr fun field value has =>
      (told field value has).of_agrees (agrees field)⟩

/-- The values of all fields leave no choice of settings. -/
theorem Adopts.unique {settings other : Settings} (first : default.Adopts members settings)
    (second : default.Adopts members other) : settings = other := by
  refine eq_of_agrees fun field => ?_
  rcases exists_hasValue members field with ⟨value, has⟩
  exact (adopts_default.mp first field value has).agrees (adopts_default.mp second field value has)

end

/-! ## Files -/

/-- A file holds an object, in one of its texts. -/
def Held (files : Files) (path : String) (members : List (List Char × Value)) : Prop :=
  ∃ text, Json.IsJson text (.object members) ∧ files.read path = .ok (Text.Utf8.encode text)

/-- What loading a file comes to that holds an object. -/
inductive Loads (members : List (List Char × Value)) (path : String) :
    Except SettingsError (Settings × SettingsEvent) → Prop
  | ok {settings : Settings} (adopts : default.Adopts members settings) :
      Loads members path (.ok (settings, .loaded path))
  | error {problem : Json.Problem} (none : ∀ settings, ¬ default.Adopts members settings) :
      Loads members path (.error (.content problem))

/-- Two loads give the same settings, or find none in either of the files. -/
inductive Alike : Except SettingsError (Settings × SettingsEvent) →
    Except SettingsError (Settings × SettingsEvent) → Prop
  | ok (settings : Settings) (path path' : String) :
      Alike (.ok (settings, .loaded path)) (.ok (settings, .loaded path'))
  | error (problem problem' : Json.Problem) :
      Alike (.error (.content problem)) (.error (.content problem'))

section

variable {files : Files} {path : String} {members members' : List (List Char × Value)}

theorem Held.loads (held : Held files path members) (distinct : (members.map Prod.fst).Nodup) :
    Loads members path (loadFrom files path) := by
  rcases held with ⟨text, json, read⟩
  have found : files.readText path = .ok text := by
    simp only [Files.readText, read, bind, Except.bind, Text.Utf8.decode?_encode]
    rfl
  have parses := parse_object json distinct
  simp only [loadFrom, Files.pathExists_of_read read, found, Bool.not_true, Bool.false_eq_true,
    if_false]
  generalize parse text = result at parses ⊢
  cases parses with
  | ok adopts => exact .ok adopts
  | error none => exact .error none

theorem Loads.alike {path' : String}
    {first second : Except SettingsError (Settings × SettingsEvent)}
    (left : Loads members path first) (right : Loads members' path' second)
    (same : ∀ settings, default.Adopts members settings ↔ default.Adopts members' settings) :
    Alike first second := by
  cases left with
  | ok adopts =>
      cases right with
      | ok adopts' =>
          cases ((same _).mp adopts).unique adopts'
          exact .ok _ _ _
      | error none => exact absurd ((same _).mp adopts) (none _)
  | error none =>
      cases right with
      | ok adopts' => exact absurd ((same _).mpr adopts') (none _)
      | error none' => exact .error _ _

/-- What is loaded is the settings with the values of all fields. -/
theorem Loads.ok_iff {result : Except SettingsError (Settings × SettingsEvent)}
    (loads : Loads members path result) (settings : Settings) :
    result = .ok (settings, .loaded path) ↔
      ∀ field value, HasValue members field value → settings.Shows field value := by
  rw [← adopts_default]
  cases loads with
  | ok adopts =>
      constructor
      · intro same
        cases same
        exact adopts
      · intro adopts'
        rw [adopts.unique adopts']
  | error none =>
      constructor
      · intro same
        cases same
      · exact fun adopts => absurd adopts (none settings)

/-- A file is refused for a value that is not of its field's type, and for nothing else. -/
theorem Loads.error_iff {result : Except SettingsError (Settings × SettingsEvent)}
    (loads : Loads members path result) (distinct : (members.map Prod.fst).Nodup) :
    (∃ problem, result = .error (.content problem)) ↔
      ∃ (field : Field) (value : Value),
        (field.key.toList, value) ∈ members ∧ ¬ field.Admits value := by
  have typed := exists_adopts distinct
  cases loads with
  | ok adopts =>
      constructor
      · rintro ⟨problem, same⟩
        cases same
      · rintro ⟨field, value, member, mistyped⟩
        exact absurd (typed.mp ⟨_, adopts⟩ field value member) mistyped
  | error none =>
      refine ⟨fun _ => ?_, fun _ => ⟨_, rfl⟩⟩
      by_contra sound
      push Not at sound
      rcases typed.mpr sound with ⟨settings, adopts⟩
      exact none settings adopts

end

/-! ## Rearranged objects -/

/-- Whatever files hold the two objects, in whatever texts, loading them is alike. -/
def LoadAlike (members members' : List (List Char × Value)) : Prop :=
  ∀ files path files' path', Held files path members → Held files' path' members' →
    Alike (loadFrom files path) (loadFrom files' path')

/-- Whether a member has the key of a field. -/
def isKnown (member : List Char × Value) : Bool := (Field.ofKey? member.1).isSome

section

variable {members members' : List (List Char × Value)} {field other : Field} {value : Value}

/-- Only the members with the key of a field have a part in the values of the fields. -/
theorem hasValue_filter :
    HasValue (members.filter isKnown) field value ↔ HasValue members field value := by
  have known : ∀ value, isKnown (field.key.toList, value) = true := by
    intro value
    rw [isKnown, ofKey?_key]
    rfl
  have keys : field.key.toList ∈ (members.filter isKnown).map Prod.fst ↔
      field.key.toList ∈ members.map Prod.fst := by
    constructor
    · exact fun found => (List.filter_sublist.map Prod.fst).subset found
    · intro found
      rcases List.mem_map.mp found with ⟨⟨key, value⟩, member, same⟩
      cases same
      exact List.mem_map_of_mem (List.mem_filter.mpr ⟨member, known value⟩)
  constructor
  · rintro (member | missing)
    · exact .given (List.mem_filter.mp member).1
    · exact .absent (mt keys.mpr missing)
  · rintro (member | missing)
    · exact .given (List.mem_filter.mpr ⟨member, known value⟩)
    · exact .absent (mt keys.mp missing)

theorem HasValue.perm (has : HasValue members field value) (rearranged : members.Perm members') :
    HasValue members' field value := by
  rcases has with member | missing
  · exact .given (rearranged.mem_iff.mp member)
  · exact .absent (mt (rearranged.map Prod.fst).mem_iff.mpr missing)

/-- A member that has the value for the absence of its field says what its absence does. -/
theorem hasValue_cons_absent (missing : field.key.toList ∉ members.map Prod.fst) :
    HasValue ((field.key.toList, field.absent) :: members) other value ↔
      HasValue members other value := by
  constructor
  · rintro (member | unnamed)
    · rcases List.mem_cons.mp member with same | later
      · cases key_injective (Prod.mk.inj same).1
        rw [(Prod.mk.inj same).2]
        exact .absent missing
      · exact .given later
    · rw [List.map_cons, List.mem_cons, not_or] at unnamed
      exact .absent unnamed.2
  · rintro (member | unnamed)
    · exact .given (List.mem_cons_of_mem _ member)
    · by_cases same : other = field
      · subst same
        exact .given List.mem_cons_self
      · refine .absent ?_
        rw [List.map_cons, List.mem_cons, not_or]
        exact ⟨fun equal => same (key_injective equal), unnamed⟩

variable (distinct' : (members'.map Prod.fst).Nodup) (distinct : (members.map Prod.fst).Nodup)

include distinct' distinct

theorem loadAlike_of_hasValue
    (same : ∀ field value, HasValue members' field value ↔ HasValue members field value) :
    LoadAlike members' members := by
  intro files path files' path' held held'
  refine (held.loads distinct').alike (held'.loads distinct) fun settings => ?_
  rw [adopts_default, adopts_default]
  simp only [same]

theorem loadAlike_of_perm
    (rearranged : (members'.filter isKnown).Perm (members.filter isKnown)) :
    LoadAlike members' members := by
  refine loadAlike_of_hasValue distinct' distinct fun field value => ?_
  rw [← @hasValue_filter members' field value, ← @hasValue_filter members field value]
  exact ⟨fun has => has.perm rearranged, fun has => has.perm rearranged.symm⟩

theorem loadAlike_of_absent {left : Field}
    (rearranged : (members'.filter isKnown).Perm
      ((left.key.toList, left.absent) :: members.filter isKnown)) :
    LoadAlike members' members := by
  have missing : left.key.toList ∉ (members.filter isKnown).map Prod.fst := by
    have keys := (rearranged.map Prod.fst).nodup_iff.mp
      (distinct'.sublist (List.filter_sublist.map Prod.fst))
    exact (List.nodup_cons.mp keys).1
  refine loadAlike_of_hasValue distinct' distinct fun field value => ?_
  rw [← @hasValue_filter members' field value, ← @hasValue_filter members field value,
    ← hasValue_cons_absent missing]
  exact ⟨fun has => has.perm rearranged, fun has => has.perm rearranged.symm⟩

end

/-- An object with pairwise distinct keys is read by field. -/
structure ReadByField (members : List (List Char × Value)) : Prop where
  loaded : ∀ files path, Held files path members → ∀ settings,
    loadFrom files path = .ok (settings, .loaded path) ↔
      ∀ field value, HasValue members field value → settings.Shows field value
  refused : ∀ files path, Held files path members →
    ((∃ problem, loadFrom files path = .error (.content problem)) ↔
      ∃ (field : Field) (value : Value),
        (field.key.toList, value) ∈ members ∧ ¬ field.Admits value)
  determined : ∀ members', (members'.map Prod.fst).Nodup →
    (∀ field value, HasValue members' field value ↔ HasValue members field value) →
      LoadAlike members' members
  /-- The members of the fields may stand in any order, amid any others, in any text. -/
  rearranged : ∀ members', (members'.map Prod.fst).Nodup →
    (members'.filter isKnown).Perm (members.filter isKnown) → LoadAlike members' members
  /-- A member may be left out if it has the value that stands for its absence. -/
  leftOut : ∀ members' (field : Field), (members'.map Prod.fst).Nodup →
    (members'.filter isKnown).Perm
      ((field.key.toList, field.absent) :: members.filter isKnown) → LoadAlike members' members

theorem read_by_field {members : List (List Char × Value)}
    (distinct : (members.map Prod.fst).Nodup) : ReadByField members where
  loaded _ _ held := (held.loads distinct).ok_iff
  refused _ _ held := (held.loads distinct).error_iff distinct
  determined _ distinct' := loadAlike_of_hasValue distinct' distinct
  rearranged _ distinct' := loadAlike_of_perm distinct' distinct
  leftOut _ _ distinct' := loadAlike_of_absent distinct' distinct

/-! ## A small file -/

/-- A note, which is of no field, and a context. -/
def noted : List Json.Entry :=
  [⟨['\n', ' '], "note".toList, [], "note".toList, "[\x7b\x7d, true] ".toList,
      .array [.object [], .bool true]⟩,
    ⟨[], "context".toList, [' '], "context".toList, " \"\\u00E9\"".toList, .string ['é']⟩]

/-- The object over two lines, with white space here and there and an escape. -/
def notedText : List Char :=
  "\x7b\n \"note\":[\x7b\x7d, true] ,\"context\" : \"\\u00E9\"\x7d".toList

theorem isJson_notedText : Json.IsJson notedText (.object (noted.map Json.Entry.member)) := by
  have blank (blanks : List Char) (all : blanks.all Json.isBlank = true) :
      ∀ c ∈ blanks, Json.isBlank c = true := List.all_eq_true.mp all
  have elements : ∀ element ∈ [(['\x7b', '\x7d'], Value.object []),
      ([' ', 't', 'r', 'u', 'e'], .bool true)], Json.IsJson element.1 element.2 := by
    simp only [List.forall_mem_cons, List.not_mem_nil, false_implies, implies_true, and_true]
    refine ⟨?_, .padded (blank [' '] rfl) (.bool true) (blank [] rfl)⟩
    exact @Json.IsJson.object [] [] (by simp) (by simp) (blank [] rfl)
  have note : Json.IsJson "[\x7b\x7d, true] ".toList (.array [.object [], .bool true]) :=
    .padded (blank [] rfl) (.array elements (blank [] rfl)) (blank [' '] rfl)
  have escape : Json.IsQuoted "\\u00E9".toList ['é'] := by
    have zero : Json.IsHexDigit '0' 0 := ⟨by decide, Or.inl rfl⟩
    exact .unit ⟨zero, zero, ⟨by decide, Or.inr rfl⟩, ⟨by decide, Or.inl rfl⟩⟩ .nil
  have context : Json.IsJson " \"\\u00E9\"".toList (.string ['é']) :=
    .padded (blank [' '] rfl) (.string escape) (blank [] rfl)
  refine @Json.IsJson.object noted [] ?_ ?_ (blank [] rfl)
  · simp only [noted, List.forall_mem_cons, List.not_mem_nil, false_implies, implies_true, and_true]
    exact ⟨⟨blank _ rfl, Json.isQuoted_written "note".toList, blank _ rfl⟩,
      ⟨blank _ rfl, Json.isQuoted_written "context".toList, blank _ rfl⟩⟩
  · simp only [noted, List.forall_mem_cons, List.not_mem_nil, false_implies, implies_true, and_true]
    exact ⟨note, context⟩

/-- The context is all that is loaded of the file. -/
theorem noted_read_by_field :
    ((noted.map Json.Entry.member).map Prod.fst).Nodup ∧
      ReadByField (noted.map Json.Entry.member) ∧
      ∃ files : Files, loadFrom files "c.json" =
        .ok ({ default with context := some "é" }, .loaded "c.json") := by
  have distinct : ((noted.map Json.Entry.member).map Prod.fst).Nodup := by decide
  have byField := read_by_field distinct
  have possible : (Files.empty.write "c.json" (Text.Utf8.encode notedText)).toOption.isSome := by
    decide +kernel
  cases writes : Files.empty.write "c.json" (Text.Utf8.encode notedText) with
  | error refused =>
      rw [writes] at possible
      cases possible
  | ok files =>
      have held : Held files "c.json" (noted.map Json.Entry.member) :=
        ⟨notedText, isJson_notedText, Files.read_write writes⟩
      have told : Shows { default with context := some "é" } .context (.string ['é']) := rfl
      have adopts : default.Adopts (noted.map Json.Entry.member)
          { default with context := some "é" } := by
        refine (adopts_foreign (by decide)).mpr ?_
        exact (adopts_field (told.takes default) List.not_mem_nil).mpr adopts_nil
      have loads := (byField.loaded files "c.json" held _).mpr (adopts_default.mp adopts)
      exact ⟨distinct, byField, files, loads⟩

end Settings
end PodCommand
