import PodCommand.Proofs.Text.WellFormed

namespace PodCommand
namespace Text
namespace Utf8

/-!
What lossy decoding makes of any octets.

`Reads` says it without a decoder: octets fall into the octets of characters, which are kept, and
maximal ill-formed subparts, each of which becomes one U+FFFD.  There is one way to read octets so,
and `front` takes it a step at a time: it finds a character exactly if one stands at the front, and
else passes over the longest start of one.

Nothing that stands before a character or after it has a part in how it is read.  An octet that
begins a character continues none, so octets can be cut before it and read on both sides.
-/

/-! ## Characters and their starts -/

/-- The octets of a character: the ranges of the standard's table of well-formed sequences. -/
inductive IsChar : Bytes → Prop
  | one {lead : UInt8} (ascii : lead < 0x80) : IsChar [lead]
  | two {lead b : UInt8} (low : 0xC2 ≤ lead) (high : lead ≤ 0xDF)
      (second : isContinuation b = true) : IsChar [lead, b]
  | three {lead b c : UInt8} (low : 0xE0 ≤ lead) (high : lead ≤ 0xEF)
      (second : isSecondOfThree lead b = true) (third : isContinuation c = true) :
      IsChar [lead, b, c]
  | four {lead b c d : UInt8} (low : 0xF0 ≤ lead) (high : lead ≤ 0xF4)
      (second : isSecondOfFour lead b = true) (third : isContinuation c = true)
      (fourth : isContinuation d = true) : IsChar [lead, b, c, d]

/-- Where a character is all that stands at the front, the octets are in the table. -/
theorem isChar_of_front (lead : UInt8) (rest : Bytes) :
    ∀ char, front lead rest = (some char, []) → IsChar (lead :: rest) := by
  fun_cases front lead rest
  case case1 ascii =>
    rintro char ⟨⟩
    exact .one ascii
  case case2 _ range b after second =>
    rintro char ⟨⟩
    rw [Bool.and_eq_true, decide_eq_true_eq, decide_eq_true_eq] at range
    exact .two range.1 range.2 second
  case case5 _ _ range b second c after third =>
    rintro char ⟨⟩
    rw [Bool.and_eq_true, decide_eq_true_eq, decide_eq_true_eq] at range
    exact .three range.1 range.2 second third
  case case10 _ _ _ range b second c third d after fourth =>
    rintro char ⟨⟩
    rw [Bool.and_eq_true, decide_eq_true_eq, decide_eq_true_eq] at range
    exact .four range.1 range.2 second third fourth
  -- In the other cases there is no character at the front.
  all_goals
    intro char here
    cases here

theorem isChar_iff {bytes : Bytes} : IsChar bytes ↔ ∃ c, encodeChar c = bytes := by
  constructor
  · intro char
    cases char with
    | one ascii => exact ⟨_, encodeChar_one ascii⟩
    | two low high second => exact ⟨_, encodeChar_two low high second⟩
    | three low high second third => exact ⟨_, encodeChar_three low high second third⟩
    | four low high second third fourth =>
        exact ⟨_, encodeChar_four low high second third fourth⟩
  · rintro ⟨c, rfl⟩
    rcases front_encodeChar c [] with ⟨lead, more, same, front⟩
    rw [List.append_nil] at front
    rw [same]
    exact isChar_of_front lead more c front

/-- The octets of a character are those that the library gives it. -/
theorem encodeChar_eq_utf8EncodeChar (c : Char) : encodeChar c = String.utf8EncodeChar c := by
  have below : c.toNat < 0x110000 := by
    have valid : c.toNat < 0xD800 ∨ (0xDFFF < c.toNat ∧ c.toNat < 0x110000) := c.valid
    omega
  have value : c.val.toNat = c.toNat := rfl
  have octet (m : Nat) : m.toUInt8 = UInt8.ofNat m := rfl
  unfold encodeChar String.utf8EncodeChar
  simp only [value, octet]
  generalize c.toNat = n at below
  by_cases one : n < 0x80
  · rw [if_pos one, if_pos (show n ≤ 127 by omega)]
  rw [if_neg one, if_neg (show ¬ n ≤ 127 by omega)]
  by_cases two : n < 0x800
  · rw [if_pos two, if_pos (show n ≤ 2047 by omega), Nat.mod_eq_of_lt (show n / 64 < 32 by omega)]
    simp only [Nat.add_comm]
  rw [if_neg two, if_neg (show ¬ n ≤ 2047 by omega)]
  by_cases three : n < 0x10000
  · rw [if_pos three, if_pos (show n ≤ 65535 by omega),
      Nat.mod_eq_of_lt (show n / 4096 < 16 by omega)]
    simp only [Nat.add_comm]
  rw [if_neg three, if_neg (show ¬ n ≤ 65535 by omega),
    Nat.mod_eq_of_lt (show n / 262144 < 8 by omega)]
  simp only [Nat.add_comm]

theorem encodeChar_ne_nil (c : Char) : encodeChar c ≠ [] := by
  rcases front_encodeChar c [] with ⟨lead, more, same, _⟩
  rw [same]
  exact List.cons_ne_nil lead more

/-- Octets with which the octets of some character begin. -/
def IsStart (part : Bytes) : Prop := ∃ c, part <+: encodeChar c

theorem isStart_iff {part : Bytes} : IsStart part ↔ ∃ bytes, IsChar bytes ∧ part <+: bytes := by
  constructor
  · rintro ⟨c, start⟩
    exact ⟨_, isChar_iff.mpr ⟨c, rfl⟩, start⟩
  · rintro ⟨bytes, char, start⟩
    rcases isChar_iff.mp char with ⟨c, rfl⟩
    exact ⟨c, start⟩

theorem IsStart.shorter {part longer : Bytes} (start : IsStart longer)
    (within : part <+: longer) : IsStart part :=
  start.imp fun _ begins => within.trans begins

/-- Every octet of a character but the first continues it. -/
theorem IsChar.continued {lead : UInt8} {more : Bytes} (char : IsChar (lead :: more)) :
    ∀ b ∈ more, isContinuation b = true := by
  cases char with
  | one ascii => simp
  | two low high second => simpa using second
  | three low high second third =>
      have above := isSecondOfThree_iff.mp second
      simp [third, isContinuation_iff.mpr ⟨above.1, above.2.1⟩]
  | four low high second third fourth =>
      have above := isSecondOfFour_iff.mp second
      simp [third, fourth, isContinuation_iff.mpr ⟨above.1, above.2.1⟩]

/-- The first octet of a character continues none. -/
theorem IsChar.begun {lead : UInt8} {more : Bytes} (char : IsChar (lead :: more)) :
    isContinuation lead = false := by
  rw [Bool.eq_false_iff, ne_eq, isContinuation_iff]
  have number {a b : UInt8} : a ≤ b → a.toNat ≤ b.toNat := UInt8.le_iff_toNat_le.mp
  cases char with
  | one ascii =>
      have : lead.toNat < 0x80 := UInt8.lt_iff_toNat_lt.mp ascii
      omega
  | two low =>
      have : 0xC2 ≤ lead.toNat := number low
      omega
  | three low =>
      have : 0xE0 ≤ lead.toNat := number low
      omega
  | four low =>
      have : 0xF0 ≤ lead.toNat := number low
      omega

/-! ## Maximal ill-formed subparts -/

/-- What stands at the front of octets where no character does: the longest start of a character,
or one octet if there is none. -/
structure IllFormed (part rest : Bytes) : Prop where
  nonempty : part ≠ []
  noChar : ∀ c, ¬ encodeChar c <+: part ++ rest
  start : IsStart part ∨ part.length = 1
  maximal : ∀ longer, longer <+: part ++ rest → IsStart longer → longer.length ≤ part.length

/-- The text of octets: each character is kept, and U+FFFD stands for each maximal ill-formed
subpart. -/
inductive Reads : Bytes → List Char → Prop
  | nil : Reads [] []
  | kept {rest : Bytes} {text : List Char} (c : Char) (later : Reads rest text) :
      Reads (encodeChar c ++ rest) (c :: text)
  | replaced {part rest : Bytes} {text : List Char} (illFormed : IllFormed part rest)
      (later : Reads rest text) : Reads (part ++ rest) ('\uFFFD' :: text)

/-- What octets begin with lies in the first part of them or goes on into the second. -/
theorem within_or_further {start part rest : Bytes} (begins : start <+: part ++ rest) :
    start <+: part ∨ ∃ b ∈ rest.head?, part ++ [b] <+: start := by
  rcases List.prefix_or_prefix_of_prefix begins (List.prefix_append part rest) with
    within | ⟨more, rfl⟩
  · exact .inl within
  · cases more with
    | nil =>
        rw [List.append_nil]
        exact .inl (List.prefix_refl part)
    | cons b more =>
        rcases (List.prefix_append_right_inj part).mp begins with ⟨after, rfl⟩
        exact .inr ⟨b, rfl, by simp⟩

section

variable {part part' rest rest' tail : Bytes} {text : List Char}

/-- Where octets are ill formed, they are so in one way. -/
theorem IllFormed.unique (first : IllFormed part rest) (second : IllFormed part' rest')
    (same : part ++ rest = part' ++ rest') : part = part' ∧ rest = rest' := by
  have within : part <+: part' ++ rest' := same ▸ List.prefix_append part rest
  have within' : part' <+: part ++ rest := same ▸ List.prefix_append part' rest'
  have some := List.length_pos_iff.mpr first.nonempty
  have some' := List.length_pos_iff.mpr second.nonempty
  have length : part.length = part'.length := by
    rcases first.start with start | single
    · have least := second.maximal part within start
      rcases second.start with start' | single'
      · have least' := first.maximal part' within' start'
        omega
      · omega
    · rcases second.start with start' | single'
      · have least' := first.maximal part' within' start'
        omega
      · omega
  exact List.append_inj same length

/-- It is enough to look one octet further. -/
theorem IllFormed.of_next (nonempty : part ≠ []) (noChar : ∀ c, ¬ encodeChar c <+: part ++ rest)
    (start : IsStart part ∨ part.length = 1)
    (next : ∀ b ∈ rest.head?, ¬ IsStart (part ++ [b])) : IllFormed part rest where
  nonempty := nonempty
  noChar := noChar
  start := start
  maximal longer begins start' := by
    rcases within_or_further begins with within | ⟨b, here, further⟩
    · exact within.length_le
    · exact absurd (start'.shorter further) (next b here)

/-! ## What stands at the front -/

theorem noChar_of_front {lead : UInt8} {rest : Bytes} (none : (front lead rest).1 = none)
    (c : Char) : ¬ encodeChar c <+: lead :: rest := by
  rintro ⟨after, same⟩
  rcases front_encodeChar c after with ⟨lead', more, split, found⟩
  rw [split, List.cons_append, List.cons.injEq] at same
  rw [← same.1, ← same.2, found] at none
  cases none

/-- The first two octets of a character are in one line of the table. -/
theorem IsStart.second {lead b : UInt8} (start : IsStart [lead, b]) :
    (0xC2 ≤ lead ∧ lead ≤ 0xDF) ∧ isContinuation b = true ∨
      (0xE0 ≤ lead ∧ lead ≤ 0xEF) ∧ isSecondOfThree lead b = true ∨
      (0xF0 ≤ lead ∧ lead ≤ 0xF4) ∧ isSecondOfFour lead b = true := by
  rcases isStart_iff.mp start with ⟨bytes, char, more, rfl⟩
  cases char with
  | two low high second => exact .inl ⟨⟨low, high⟩, second⟩
  | three low high second third => exact .inr (.inl ⟨⟨low, high⟩, second⟩)
  | four low high second third fourth => exact .inr (.inr ⟨⟨low, high⟩, second⟩)

theorem IsStart.continued {lead : UInt8} {more : Bytes} (start : IsStart (lead :: more)) :
    ∀ b ∈ more, isContinuation b = true := by
  rcases isStart_iff.mp start with ⟨bytes, char, after, rfl⟩
  exact fun b member => char.continued b (List.mem_append_left after member)

theorem isStart_of_three {lead b : UInt8} (low : 0xE0 ≤ lead) (high : lead ≤ 0xEF)
    (second : isSecondOfThree lead b = true) : IsStart [lead, b] :=
  isStart_iff.mpr ⟨[lead, b, 0x80], .three low high second rfl, [0x80], rfl⟩

theorem isStart_of_four {lead b c : UInt8} (low : 0xF0 ≤ lead) (high : lead ≤ 0xF4)
    (second : isSecondOfFour lead b = true) (third : isContinuation c = true) :
    IsStart [lead, b, c] :=
  isStart_iff.mpr ⟨[lead, b, c, 0x80], .four low high second third rfl, [0x80], rfl⟩

/-- One octet is ill formed if the next one does not go on with it. -/
theorem illFormed_one {lead : UInt8} {rest : Bytes} (noChar : ∀ c, ¬ encodeChar c <+: lead :: rest)
    (next : ∀ b ∈ rest.head?, ¬ IsStart [lead, b]) : IllFormed [lead] rest :=
  .of_next (List.cons_ne_nil lead []) noChar (.inr rfl) next

/-- A start is ill formed if the next octet does not continue it. -/
theorem illFormed_start {lead : UInt8} {more rest : Bytes} (start : IsStart (lead :: more))
    (noChar : ∀ c, ¬ encodeChar c <+: lead :: more ++ rest)
    (next : ∀ b ∈ rest.head?, ¬ isContinuation b = true) : IllFormed (lead :: more) rest :=
  .of_next (List.cons_ne_nil lead more) noChar (.inl start) fun b here longer =>
    next b here (longer.continued b (List.mem_append_right more (List.mem_singleton_self b)))

/-- Where no character stands at the front, `front` passes over a maximal ill-formed subpart. -/
theorem illFormed_of_front (lead : UInt8) (rest : Bytes) (none : (front lead rest).1 = none) :
    ∃ part, part ++ (front lead rest).2 = lead :: rest ∧ IllFormed part (front lead rest).2 := by
  have noChar := noChar_of_front none
  revert none noChar
  fun_cases front lead rest
  all_goals intro none noChar
  -- In the cases of a character there is nothing to show.
  all_goals try cases none
  case case3 _ range b after second =>
    refine ⟨[lead], rfl, illFormed_one noChar ?_⟩
    rintro b' ⟨⟩ start
    rcases start.second with ⟨_, second'⟩ | ⟨range', _⟩ | ⟨range', _⟩
    · exact second second'
    · grind
    · grind
  case case4 => exact ⟨[lead], rfl, illFormed_one noChar (by simp)⟩
  case case6 _ _ range b second c after third =>
    rw [Bool.and_eq_true, decide_eq_true_eq, decide_eq_true_eq] at range
    refine ⟨[lead, b], rfl, illFormed_start (isStart_of_three range.1 range.2 second) noChar ?_⟩
    rintro c' ⟨⟩
    exact third
  case case7 _ _ range b second =>
    rw [Bool.and_eq_true, decide_eq_true_eq, decide_eq_true_eq] at range
    refine ⟨[lead, b], rfl, illFormed_start (isStart_of_three range.1 range.2 second) noChar ?_⟩
    simp
  case case8 _ _ range b more second =>
    refine ⟨[lead], rfl, illFormed_one noChar ?_⟩
    rintro b' ⟨⟩ start
    rcases start.second with ⟨range', _⟩ | ⟨_, second'⟩ | ⟨range', _⟩
    · grind
    · exact second second'
    · grind
  case case9 => exact ⟨[lead], rfl, illFormed_one noChar (by simp)⟩
  case case11 _ _ _ range b second c third d after fourth =>
    rw [Bool.and_eq_true, decide_eq_true_eq, decide_eq_true_eq] at range
    refine ⟨[lead, b, c], rfl,
      illFormed_start (isStart_of_four range.1 range.2 second third) noChar ?_⟩
    rintro d' ⟨⟩
    exact fourth
  case case12 _ _ _ range b second c third =>
    rw [Bool.and_eq_true, decide_eq_true_eq, decide_eq_true_eq] at range
    refine ⟨[lead, b, c], rfl,
      illFormed_start (isStart_of_four range.1 range.2 second third) noChar ?_⟩
    simp
  case case13 _ _ _ range b second c last third =>
    rw [Bool.and_eq_true, decide_eq_true_eq, decide_eq_true_eq] at range
    have start : IsStart [lead, b, 0x80] := isStart_of_four range.1 range.2 second rfl
    refine ⟨[lead, b], rfl, illFormed_start (start.shorter ⟨[0x80], rfl⟩) noChar ?_⟩
    rintro c' ⟨⟩
    exact third
  case case14 _ _ _ range b second =>
    rw [Bool.and_eq_true, decide_eq_true_eq, decide_eq_true_eq] at range
    have start : IsStart [lead, b, 0x80] := isStart_of_four range.1 range.2 second rfl
    refine ⟨[lead, b], rfl, illFormed_start (start.shorter ⟨[0x80], rfl⟩) noChar ?_⟩
    simp
  case case15 _ _ _ range b more second =>
    refine ⟨[lead], rfl, illFormed_one noChar ?_⟩
    rintro b' ⟨⟩ start
    rcases start.second with ⟨range', _⟩ | ⟨range', _⟩ | ⟨_, second'⟩
    · grind
    · grind
    · exact second second'
  case case16 => exact ⟨[lead], rfl, illFormed_one noChar (by simp)⟩
  case case17 notOne notTwo notThree notFour =>
    refine ⟨[lead], rfl, illFormed_one noChar fun b _ start => ?_⟩
    rcases start.second with ⟨range, _⟩ | ⟨range, _⟩ | ⟨range, _⟩
    · grind
    · grind
    · grind

/-! ## Reading as lossy decoding -/

theorem decodeLossy_nil : decodeLossy [] = [] := by
  rw [decodeLossy, segments_nil, List.map_nil]

theorem decodeLossy_encode_append (text : List Char) (rest : Bytes) :
    decodeLossy (encode text ++ rest) = text ++ decodeLossy rest := by
  rw [decodeLossy, segments_encode_append, List.map_append, List.map_map]
  exact congrArg (· ++ decodeLossy rest) (List.map_id text)

theorem IllFormed.replaced (illFormed : IllFormed part rest) :
    decodeLossy (part ++ rest) = '\uFFFD' :: decodeLossy rest := by
  cases part with
  | nil => exact absurd rfl illFormed.nonempty
  | cons lead more =>
      have none : (front lead (more ++ rest)).1 = none := by
        cases found : (front lead (more ++ rest)).1 with
        | none => rfl
        | some c => exact absurd ⟨_, encodeChar_front lead _ c found⟩ (illFormed.noChar c)
      rcases illFormed_of_front lead (more ++ rest) none with ⟨part, whole, same⟩
      have after := (same.unique illFormed whole).2
      rw [List.cons_append, decodeLossy, segments_cons, none, after]
      rfl

theorem Reads.text_eq {bytes : Bytes} (reads : Reads bytes text) :
    text = decodeLossy bytes := by
  induction reads with
  | nil => exact decodeLossy_nil.symm
  | kept c later ih =>
      have single : encodeChar c = encode [c] := (List.append_nil _).symm
      rw [single, decodeLossy_encode_append, ← ih]
      rfl
  | replaced illFormed later ih => rw [illFormed.replaced, ← ih]

/-- Every octet sequence can be read. -/
theorem reads_decodeLossy (bytes : Bytes) : Reads bytes (decodeLossy bytes) := by
  cases bytes with
  | nil =>
      rw [decodeLossy_nil]
      exact .nil
  | cons lead rest =>
      have shorter := length_front_le lead rest
      have later := reads_decodeLossy (front lead rest).2
      rw [decodeLossy, segments_cons, List.map_cons]
      cases found : (front lead rest).1 with
      | some c =>
          rw [← encodeChar_front lead rest c found]
          exact .kept c later
      | none =>
          rcases illFormed_of_front lead rest found with ⟨part, whole, illFormed⟩
          rw [← whole]
          exact .replaced illFormed later
termination_by bytes.length

end

/-- There is one way to read octets, which is lossy decoding. -/
theorem reads_iff {bytes : Bytes} {text : List Char} :
    Reads bytes text ↔ text = decodeLossy bytes := by
  constructor
  · exact Reads.text_eq
  · rintro rfl
    exact reads_decodeLossy bytes

/-! ## Cutting before a character -/

/-- Octets do not begin in the middle of a character. -/
def Aligned (bytes : Bytes) : Prop := ∀ b ∈ bytes.head?, isContinuation b = false

theorem aligned_encodeChar_append (c : Char) (rest : Bytes) : Aligned (encodeChar c ++ rest) := by
  have char := isChar_iff.mpr ⟨c, rfl⟩
  cases octets : encodeChar c with
  | nil => exact absurd octets (encodeChar_ne_nil c)
  | cons lead more =>
      rw [octets] at char
      rintro b ⟨⟩
      exact char.begun

section

variable {part rest tail bytes : Bytes} {text : List Char}

/-- A start that something stands before does not reach into aligned octets. -/
theorem IsStart.within {start : Bytes} (isStart : IsStart start) (nonempty : part ≠ [])
    (aligned : Aligned tail) (begins : start <+: part ++ tail) : start <+: part := by
  rcases within_or_further begins with within | ⟨b, here, further⟩
  · exact within
  · have longer := isStart.shorter further
    cases part with
    | nil => exact absurd rfl nonempty
    | cons lead more =>
        have continues :=
          longer.continued b (List.mem_append_right more (List.mem_singleton_self b))
        rw [aligned b here] at continues
        cases continues

theorem IllFormed.append (illFormed : IllFormed part rest) (aligned : Aligned tail) :
    IllFormed part (rest ++ tail) := by
  have some : part ++ rest ≠ [] := List.append_ne_nil_of_left_ne_nil illFormed.nonempty rest
  refine ⟨illFormed.nonempty, fun c begins => ?_, illFormed.start, fun longer begins start => ?_⟩
  · rw [← List.append_assoc] at begins
    have start : IsStart (encodeChar c) := ⟨c, List.prefix_refl _⟩
    exact illFormed.noChar c (start.within some aligned begins)
  · rw [← List.append_assoc] at begins
    exact illFormed.maximal longer (start.within some aligned begins) start

/-- Octets can be cut where a character may begin, and read on both sides. -/
theorem Reads.append {text' : List Char} (reads : Reads bytes text) (aligned : Aligned tail)
    (reads' : Reads tail text') : Reads (bytes ++ tail) (text ++ text') := by
  induction reads with
  | nil => exact reads'
  | kept c later ih =>
      rw [List.append_assoc]
      exact .kept c ih
  | replaced illFormed later ih =>
      rw [List.append_assoc]
      exact .replaced (illFormed.append aligned) ih

theorem decodeLossy_append (aligned : Aligned tail) :
    decodeLossy (bytes ++ tail) = decodeLossy bytes ++ decodeLossy tail :=
  ((reads_decodeLossy bytes).append aligned (reads_decodeLossy tail)).text_eq.symm

end

/-- A character is kept in its place, whatever stands before and after it. -/
theorem decodeLossy_append_encodeChar_append (before : Bytes) (c : Char) (after : Bytes) :
    decodeLossy (before ++ encodeChar c ++ after) =
      decodeLossy before ++ c :: decodeLossy after := by
  rw [List.append_assoc, decodeLossy_append (aligned_encodeChar_append c after)]
  have kept : Reads (encodeChar c ++ after) (c :: decodeLossy after) :=
    .kept c (reads_decodeLossy after)
  rw [← kept.text_eq]

end Utf8
end Text
end PodCommand
