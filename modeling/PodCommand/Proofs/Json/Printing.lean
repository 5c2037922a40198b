import PodCommand.Json.Printing
import PodCommand.Proofs.Json.Grammar
import PodCommand.Proofs.Text.Numeral

namespace PodCommand
namespace Json

/-!
What is written is JSON for what it is written for.

Every character of a string is written as itself or as one of its escapes, a natural number has no
zero in front, and line breaks and indentation are white space that may stand where they do.
-/

/-! ## Strings -/

/-- A control character is written as an escape of four digits. -/
theorem isUnit_control : ∀ n < 0x20,
    Text.padLeft 4 (Text.hexNumeral n) = ['0', '0', (n / 16).digitChar, (n % 16).digitChar] ∧
      n / 16 < 16 ∧ n % 16 < 16 := by
  decide

theorem IsQuoted.escapeChar {body text : List Char} (c : Char) (rest : IsQuoted body text) :
    IsQuoted (escapeChar c ++ body) (c :: text) := by
  unfold Json.escapeChar
  by_cases quote : c = '"'
  · subst quote
    exact .letter (by decide) rest
  by_cases backslash : c = '\\'
  · subst backslash
    exact .letter (by decide) rest
  by_cases backspace : c = '\x08'
  · subst backspace
    exact .letter (by decide) rest
  by_cases tab : c = '\t'
  · subst tab
    exact .letter (by decide) rest
  by_cases newline : c = '\n'
  · subst newline
    exact .letter (by decide) rest
  by_cases formFeed : c = '\x0c'
  · subst formFeed
    exact .letter (by decide) rest
  by_cases carriage : c = '\r'
  · subst carriage
    exact .letter (by decide) rest
  simp only [quote, backslash, backspace, tab, newline, formFeed, carriage, if_false]
  by_cases control : c.toNat < 0x20
  · rcases isUnit_control c.toNat control with ⟨written, high, low⟩
    rw [if_pos control, written]
    have digit {value : Nat} (small : value < 16) : IsHexDigit value.digitChar value :=
      ⟨small, Or.inl rfl⟩
    have zero : ∀ {value : Nat}, value = 0 → IsHexDigit '0' value := by
      rintro value rfl
      exact ⟨by decide, Or.inl rfl⟩
    refine .unit ⟨zero (by omega), zero (by omega), ?_, digit low⟩ rest
    have same : c.toNat / 0x10 % 16 = c.toNat / 16 := by omega
    rw [same]
    exact digit high
  · rw [if_neg control]
    exact .plain (Nat.not_lt.mp control) quote backslash rest

theorem isQuoted_written (text : List Char) : IsQuoted (text.flatMap escapeChar) text := by
  induction text with
  | nil => exact .nil
  | cons c text ih => exact .escapeChar c ih

theorem isJson_writeString (text : List Char) : IsJson (writeString text) (.string text) :=
  .string (isQuoted_written text)

/-! ## Natural numbers -/

/-- A natural number as it is written. -/
def Numeral.ofNat (n : Nat) : Numeral where
  negative := false
  whole :=
    { chars := Nat.toDigits 10 n
      filled := Nat.toDigits_ne_nil
      decimal := fun _ => Nat.isDigit_of_mem_toDigits (by decide) (by decide) }
  fraction := none
  exponent := none
  proper := Text.length_toDigits_of_zero

theorem Numeral.isNatural_ofNat (n : Nat) : (ofNat n).IsNatural n := by
  refine ⟨rfl, rfl, rfl, ?_⟩
  refine (Text.ofDigits_digits _).trans ?_
  exact Nat.ofDigitChars_toDigits (by decide) (by decide)

theorem isJson_toDigits (n : Nat) : IsJson (Nat.toDigits 10 n) (.number (.ofNat n)) := by
  have written : (Numeral.ofNat n).text = Nat.toDigits 10 n := by
    simp [Numeral.text, Numeral.textBehind, Numeral.ofNat]
  exact written ▸ .number (.ofNat n)

/-! ## Items on lines -/

theorem isBlank_of_mem_lineAt (level : Nat) : ∀ c ∈ lineAt level, isBlank c = true := by
  intro c member
  rcases List.mem_cons.mp member with rfl | member
  · rfl
  · rw [List.eq_of_mem_replicate member]
    rfl

/-- Written items are separated by commas, with white space before each and after the last. -/
theorem exists_writeItems (opening closing : Char) (level : Nat) (items : List (List Char)) :
    ∃ blanks, (∀ c ∈ blanks, isBlank c = true) ∧ writeItems opening closing level items =
      opening :: (commaSeparated (items.map (lineAt (level + 1) ++ ·)) ++
        (blanks ++ [closing])) := by
  cases items with
  | nil => exact ⟨[], fun _ member => absurd member List.not_mem_nil, rfl⟩
  | cons first rest =>
      refine ⟨lineAt level, isBlank_of_mem_lineAt level, ?_⟩
      simp [writeItems, commaSeparated, List.flatMap_map]

theorem isJson_writeStrings (level : Nat) (texts : List (List Char)) :
    IsJson (writeStrings level texts) (.array (texts.map .string)) := by
  rcases exists_writeItems '[' ']' level (texts.map writeString) with ⟨blanks, blank, written⟩
  have all : ∀ element ∈ texts.map fun text =>
      (lineAt (level + 1) ++ writeString text, Value.string text),
      IsJson element.1 element.2 := by
    intro element member
    rcases List.mem_map.mp member with ⟨text, _, rfl⟩
    have padded := IsJson.padded (isBlank_of_mem_lineAt (level + 1)) (isJson_writeString text)
      (fun _ member => absurd member List.not_mem_nil)
    rwa [List.append_nil] at padded
  have array := IsJson.array all blank
  rw [writeStrings, written]
  rw [List.map_map, List.map_map] at array
  rw [List.map_map]
  exact array

theorem isJson_writeOptional {α : Type} {write : α → List Char} {value : α → Value}
    (json : ∀ a, IsJson (write a) (value a)) (given : Option α) :
    IsJson (writeOptional write given) ((given.map value).getD .null) := by
  cases given with
  | none => exact .null
  | some a => exact json a

/-- A member as it is written at a level: its key, the text of its value and the value. -/
def lineEntry (level : Nat) (member : String × List Char × Value) : Entry :=
  ⟨lineAt level, member.1.toList.flatMap escapeChar, [], member.1.toList, ' ' :: member.2.1,
    member.2.2⟩

theorem written_lineEntry (level : Nat) :
    Entry.written ∘ lineEntry level =
      (lineAt level ++ ·) ∘ fun member => writeMember member.1 member.2.1 := by
  funext member
  simp [lineEntry, Entry.written, writeMember, writeString]

theorem isJson_writeObject (level : Nat) {members : List (String × List Char × Value)}
    (values : ∀ member ∈ members, IsJson member.2.1 member.2.2) :
    IsJson (writeObject level (members.map fun member => writeMember member.1 member.2.1))
      (.object (members.map fun member => (member.1.toList, member.2.2))) := by
  rcases exists_writeItems '\x7b' '\x7d' level
    (members.map fun member => writeMember member.1 member.2.1) with ⟨blanks, blank, written⟩
  have space : ∀ c ∈ [' '], isBlank c = true := by
    intro c member
    rw [List.mem_singleton.mp member]
    rfl
  have keys : ∀ entry ∈ members.map (lineEntry (level + 1)), entry.Keyed := by
    intro entry listed
    rcases List.mem_map.mp listed with ⟨member, _, rfl⟩
    exact ⟨isBlank_of_mem_lineAt (level + 1), isQuoted_written _, fun _ none =>
      absurd none List.not_mem_nil⟩
  have texts : ∀ entry ∈ members.map (lineEntry (level + 1)), IsJson entry.text entry.value := by
    intro entry listed
    rcases List.mem_map.mp listed with ⟨member, among, rfl⟩
    have padded := IsJson.padded space (values member among) fun _ none =>
      absurd none List.not_mem_nil
    rwa [List.append_nil] at padded
  have object := IsJson.object keys texts blank
  rw [List.map_map, List.map_map, written_lineEntry] at object
  rw [writeObject, written, List.map_map]
  exact object

end Json
end PodCommand
