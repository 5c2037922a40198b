import PodCommand.Json.Event

namespace PodCommand
namespace Json

/-!
The grammar of JSON, apart from any reading of it.

`IsJson` says which texts stand for which values: white space around tokens, the spelling of each
character of a string and the order of the members of an object are free, and a number counts as it
is written.  Nesting is as deep as the value is.  `Value.events` is what a text should be read as,
whichever of the texts of the value it is.
-/

/-! ## Numbers -/

/-- Decimal digits, at least one. -/
structure Digits where
  chars : List Char
  filled : chars ≠ []
  decimal : ∀ c ∈ chars, c.isDigit = true

/-- The exponent of a number. -/
structure Exponent where
  mark : Char
  sign : List Char
  digits : Digits
  marked : mark = 'e' ∨ mark = 'E'
  signed : sign = [] ∨ sign = ['+'] ∨ sign = ['-']

/-- A number as it is written. -/
structure Numeral where
  negative : Bool
  whole : Digits
  fraction : Option Digits
  exponent : Option Exponent
  /-- No zero stands before other digits. -/
  proper : whole.chars.head? = some '0' → whole.chars.length = 1

namespace Digits

def values (digits : Digits) : List Nat := digits.chars.map fun c => c.toNat - '0'.toNat

/-- The number that the digits denote. -/
def value (digits : Digits) : Nat := Text.ofDigits 10 digits.values

end Digits

namespace Exponent

def text (exponent : Exponent) : List Char :=
  exponent.mark :: (exponent.sign ++ exponent.digits.chars)

def value (exponent : Exponent) : Int :=
  if exponent.sign = ['-'] then -(exponent.digits.value : Int) else exponent.digits.value

end Exponent

namespace Numeral

/-- The text of a number behind its whole part. -/
def textBehind (fraction : Option Digits) (exponent : Option Exponent) : List Char :=
  (match fraction with
    | none => []
    | some digits => '.' :: digits.chars) ++ (exponent.map Exponent.text).getD []

def text (numeral : Numeral) : List Char :=
  (if numeral.negative then ['-'] else []) ++
    (numeral.whole.chars ++ textBehind numeral.fraction numeral.exponent)

/-- What is read of the number. -/
def number (numeral : Numeral) : Number :=
  let fraction := (numeral.fraction.map Digits.values).getD []
  ⟨⟨numeral.negative, Text.ofDigits 10 (numeral.whole.values ++ fraction),
      (numeral.exponent.map Exponent.value).getD 0 - fraction.length⟩,
    numeral.fraction.isNone && numeral.exponent.isNone⟩

/-- The number is a natural one, written without sign, fraction or exponent. -/
structure IsNatural (numeral : Numeral) (n : Nat) : Prop where
  unsigned : numeral.negative = false
  noFraction : numeral.fraction = none
  noExponent : numeral.exponent = none
  value : numeral.whole.value = n

end Numeral

/-! ## Strings -/

/-- A hexadecimal digit, of either case, for a number. -/
def IsHexDigit (c : Char) (value : Nat) : Prop :=
  value < 16 ∧ (c = value.digitChar ∨ c = value.digitChar.toUpper)

/-- Four hexadecimal digits for a unit of UTF-16. -/
structure IsUnit (a b c d : Char) (unit : Nat) : Prop where
  first : IsHexDigit a (unit / 0x1000)
  second : IsHexDigit b (unit / 0x100 % 16)
  third : IsHexDigit c (unit / 0x10 % 16)
  fourth : IsHexDigit d (unit % 16)

/-- The escapes of one letter and the characters that they stand for. -/
def letterEscapes : List (Char × Char) :=
  [('"', '"'), ('\\', '\\'), ('/', '/'), ('b', '\x08'), ('f', '\x0c'), ('n', '\n'), ('r', '\r'),
    ('t', '\t')]

/-- The first of the surrogates for a character beyond the first 0x10000. -/
def leadingUnit (c : Char) : Nat := 0xD800 + (c.toNat - 0x10000) / 0x400

/-- The second of the surrogates for a character beyond the first 0x10000. -/
def trailingUnit (c : Char) : Nat := 0xDC00 + (c.toNat - 0x10000) % 0x400

/-- What stands between the quotes of a string for a text.  A character beyond the first 0x10000 is
escaped as a pair of surrogates, and no surrogate is escaped by itself. -/
inductive IsQuoted : List Char → List Char → Prop
  | nil : IsQuoted [] []
  | plain {c : Char} {body text : List Char} (visible : 0x20 ≤ c.toNat) (noQuote : c ≠ '"')
      (noEscape : c ≠ '\\') (rest : IsQuoted body text) : IsQuoted (c :: body) (c :: text)
  | letter {escape c : Char} {body text : List Char} (known : (escape, c) ∈ letterEscapes)
      (rest : IsQuoted body text) : IsQuoted ('\\' :: escape :: body) (c :: text)
  | unit {a b c d : Char} {char : Char} {body text : List Char} (digits : IsUnit a b c d char.toNat)
      (rest : IsQuoted body text) :
      IsQuoted ('\\' :: 'u' :: a :: b :: c :: d :: body) (char :: text)
  | pair {a b c d a' b' c' d' : Char} {char : Char} {body text : List Char}
      (beyond : 0x10000 ≤ char.toNat)
      (leading : IsUnit a b c d (leadingUnit char))
      (trailing : IsUnit a' b' c' d' (trailingUnit char))
      (rest : IsQuoted body text) :
      IsQuoted
        ('\\' :: 'u' :: a :: b :: c :: d :: '\\' :: 'u' :: a' :: b' :: c' :: d' :: body)
        (char :: text)

/-! ## Values -/

/-- A value.  The members of an object stand in their order, and may have one key twice. -/
inductive Value
  | null
  | bool (value : Bool)
  | number (numeral : Numeral)
  | string (text : List Char)
  | array (elements : List Value)
  | object (members : List (List Char × Value))

/-- A member of an object as it is written: white space may stand on both sides of the key. -/
structure Entry where
  before : List Char
  body : List Char
  after : List Char
  key : List Char
  text : List Char
  value : Value

namespace Entry

/-- The whole text of a member. -/
def written (entry : Entry) : List Char :=
  entry.before ++ '"' :: (entry.body ++ '"' :: (entry.after ++ ':' :: entry.text))

def member (entry : Entry) : List Char × Value := (entry.key, entry.value)

/-- The key is written as it should be. -/
structure Keyed (entry : Entry) : Prop where
  before : ∀ c ∈ entry.before, isBlank c = true
  body : IsQuoted entry.body entry.key
  after : ∀ c ∈ entry.after, isBlank c = true

end Entry

/-- Texts that commas separate. -/
def commaSeparated : List (List Char) → List Char
  | [] => []
  | first :: rest => first ++ rest.flatMap (',' :: ·)

/-- A text that is JSON for a value. -/
inductive IsJson : List Char → Value → Prop
  | null : IsJson ['n', 'u', 'l', 'l'] .null
  | bool (value : Bool) :
      IsJson (if value then ['t', 'r', 'u', 'e'] else ['f', 'a', 'l', 's', 'e']) (.bool value)
  | number (numeral : Numeral) : IsJson numeral.text (.number numeral)
  | string {body text : List Char} (quoted : IsQuoted body text) :
      IsJson ('"' :: (body ++ ['"'])) (.string text)
  | array {elements : List (List Char × Value)} {blanks : List Char}
      (all : ∀ element ∈ elements, IsJson element.1 element.2)
      (blank : ∀ c ∈ blanks, isBlank c = true) :
      IsJson ('[' :: (commaSeparated (elements.map Prod.fst) ++ (blanks ++ [']'])))
        (.array (elements.map Prod.snd))
  | object {entries : List Entry} {blanks : List Char} (keys : ∀ entry ∈ entries, entry.Keyed)
      (values : ∀ entry ∈ entries, IsJson entry.text entry.value)
      (blank : ∀ c ∈ blanks, isBlank c = true) :
      IsJson ('\x7b' :: (commaSeparated (entries.map Entry.written) ++ (blanks ++ ['\x7d'])))
        (.object (entries.map Entry.member))
  | padded {left text right : List Char} {value : Value} (before : ∀ c ∈ left, isBlank c = true)
      (json : IsJson text value) (after : ∀ c ∈ right, isBlank c = true) :
      IsJson (left ++ (text ++ right)) value

/-! ## Events -/

/-- The events of items that commas separate. -/
def itemEvents : List (List Event) → List Event
  | [] => []
  | first :: rest => first ++ rest.flatMap (.comma :: ·)

mutual

/-- What a text of the value is read as. -/
def Value.events : Value → List Event
  | .null => [.null]
  | .bool value => [.bool value]
  | .number numeral => [.number numeral.number]
  | .string text => [.string (some text)]
  | .array elements => .beginArray :: (itemEvents (elementEvents elements) ++ [.endArray])
  | .object members => .beginObject :: (itemEvents (memberEvents members) ++ [.endObject])

def elementEvents : List Value → List (List Event)
  | [] => []
  | value :: rest => value.events :: elementEvents rest

def memberEvents : List (List Char × Value) → List (List Event)
  | [] => []
  | (key, value) :: rest => (.key (some key) :: value.events) :: memberEvents rest

end

theorem elementEvents_eq_map (elements : List Value) :
    elementEvents elements = elements.map Value.events := by
  induction elements with
  | nil => rfl
  | cons value rest ih => rw [elementEvents, ih, List.map_cons]

theorem memberEvents_eq_map (members : List (List Char × Value)) :
    memberEvents members = members.map fun member => .key (some member.1) :: member.2.events := by
  induction members with
  | nil => rfl
  | cons member rest ih => rw [memberEvents, ih, List.map_cons]

end Json
end PodCommand
