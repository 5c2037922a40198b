import Mathlib.Data.List.TakeWhile
import PodCommand.Proofs.Request.Url
import PodCommand.Proofs.Target.Label
import PodCommand.Request.Assembly

namespace PodCommand

/-!
Putting a request line together comes to nothing but a choice by length.

An identifier that begins with a slash and has only characters of a request line is read and written
back as it stands.  The URL of a checked target is one of these, the name in it is not empty, and
what it attaches can be attached; so of all refusals only that of a URL too long is left.
-/

/-! ## Identifiers read and written back -/

namespace Uri

/-- A character that may stand anywhere before a fragment. -/
structure Plain (c : Char) : Prop where
  inQuery : isQueryChar c = true
  inPath : c ≠ '?' → isPathChar c = true
  noFragment : c ≠ '#'

variable {chars : List Char}

theorem readPath_of_plain (plain : ∀ c ∈ chars, Plain c) :
    readPath chars = .ok (String.ofList (chars.takeWhile (· ≠ '?')),
      (chars.dropWhile (· ≠ '?')).tail?.map String.ofList) := by
  have whole : chars.takeWhile (· ≠ '#') = chars :=
    List.takeWhile_eq_self_iff.mpr fun c member => decide_eq_true (plain c member).noFragment
  have path : (chars.takeWhile (· ≠ '?')).all isPathChar = true := by
    rw [List.all_eq_true]
    intro c member
    have before := List.mem_takeWhile_imp member
    exact (plain c ((List.takeWhile_prefix (· ≠ '?')).subset member)).inPath
      (of_decide_eq_true before)
  have query : ((chars.dropWhile (· ≠ '?')).tail?.getD []).all isQueryChar = true := by
    rw [List.all_eq_true]
    intro c member
    refine (plain c ((List.dropWhile_suffix (· ≠ '?')).subset ?_)).inQuery
    cases rest : chars.dropWhile (· ≠ '?') with
    | nil =>
        rw [rest] at member
        cases member
    | cons mark query =>
        rw [rest] at member
        exact List.mem_cons_of_mem _ member
  unfold readPath
  rw [whole]
  exact if_pos (Bool.and_eq_true_iff.mpr ⟨path, query⟩)

/-- What stands before the first question mark and what follows it make up the text. -/
theorem path_append_query (chars : List Char) :
    chars.takeWhile (· ≠ '?') ++
      (match (chars.dropWhile (· ≠ '?')).tail? with
        | some query => '?' :: query
        | none => []) = chars := by
  have halves := List.takeWhile_append_dropWhile (p := (· ≠ '?')) (l := chars)
  cases rest : chars.dropWhile (· ≠ '?') with
  | nil => rwa [rest] at halves
  | cons mark query =>
      have stops := List.head?_dropWhile_not (· ≠ '?') chars
      rw [rest] at stops halves
      have same : mark = '?' := by simpa using stops
      rwa [same] at halves

theorem text_of_readPath {path : String} {query : Option String} :
    text ⟨none, none, path, query⟩ =
      path ++ (match query with
        | some query => "?" ++ query
        | none => "") := by
  cases query with
  | none => simp [text, requestPath]
  | some query => simp [text, requestPath]

theorem read_of_long {text : String} (long : maxLength < text.utf8ByteSize) :
    read text = .error .tooLong := by
  unfold read
  rw [if_pos long]
  rfl

/-- A text that begins with a slash, has plain characters only and is not too long is read as an
identifier and written back as it stands. -/
theorem exists_read_of_plain {text : String} (rooted : text.toList.head? = some '/')
    (plain : ∀ c ∈ text.toList, Plain c) (short : text.utf8ByteSize ≤ maxLength) :
    ∃ uri, read text = .ok uri ∧ uri.text = text := by
  have read : read text = .ok ⟨none, none, String.ofList (text.toList.takeWhile (· ≠ '?')),
      (text.toList.dropWhile (· ≠ '?')).tail?.map String.ofList⟩ := by
    have path := readPath_of_plain plain
    unfold read
    generalize text.toList = chars at rooted path
    cases chars with
    | nil => cases rooted
    | cons c rest =>
        cases rooted
        rw [if_neg (Nat.not_lt.mpr short)]
        dsimp only
        rw [path]
        rfl
  refine ⟨_, read, ?_⟩
  rw [text_of_readPath, ← String.toList_inj, String.toList_append, String.toList_ofList]
  conv => rhs; rw [← path_append_query text.toList]
  congr 1
  cases (text.toList.dropWhile (· ≠ '?')).tail? with
  | none => rfl
  | some query =>
      have mark : "?".toList = ['?'] := by decide
      rw [Option.map_some, String.toList_append, mark, String.toList_ofList]
      rfl

end Uri

namespace Request

/-! ## Characters of a request line -/

theorem plain_of_isUrlChar {c : Char} (char : isUrlChar c = true ∨ c = '%') : Uri.Plain c := by
  have ascii : c.toNat < 0x80 := by
    rcases char with plain | rfl
    · exact isAscii_of_isUrlChar plain
    · decide
  have all : ∀ n < 0x80, isUrlChar (Char.ofNat n) = true ∨ Char.ofNat n = '%' →
      Uri.isQueryChar (Char.ofNat n) = true ∧
        (Char.ofNat n ≠ '?' → Uri.isPathChar (Char.ofNat n) = true) ∧ Char.ofNat n ≠ '#' := by
    decide +kernel
  have known := all c.toNat ascii
  rw [Char.ofNat_toNat] at known
  rcases known char with ⟨inQuery, inPath, noFragment⟩
  exact ⟨inQuery, inPath, noFragment⟩

theorem isUrlChar_of_hexValue? {c : Char} (digit : (Text.hexValue? c).isSome = true) :
    isUrlChar c = true := by
  have all : ∀ n < 0x80, (Text.hexValue? (Char.ofNat n)).isSome = true →
      isUrlChar (Char.ofNat n) = true := by
    decide +kernel
  have known := all c.toNat (isAscii_of_hexValue? digit)
  rw [Char.ofNat_toNat] at known
  exact known digit

/-- Every character of a request line is plain, those of its escapes included. -/
theorem plain_of_isUrl {text : List Char} (legal : isUrl text = true) :
    ∀ c ∈ text, Uri.Plain c := by
  fun_induction isUrl text with
  | case1 => exact fun _ member => absurd member List.not_mem_nil
  | case2 first second rest ih =>
      simp only [Bool.and_eq_true] at legal
      rcases legal with ⟨⟨high, low⟩, later⟩
      intro c member
      rcases List.mem_cons.mp member with rfl | member
      · exact plain_of_isUrlChar (.inr rfl)
      · rcases List.mem_cons.mp member with rfl | member
        · exact plain_of_isUrlChar (.inl (isUrlChar_of_hexValue? high))
        · rcases List.mem_cons.mp member with rfl | member
          · exact plain_of_isUrlChar (.inl (isUrlChar_of_hexValue? low))
          · exact ih later c member
  | case3 c rest _ ih =>
      rw [Bool.and_eq_true] at legal
      intro other member
      rcases List.mem_cons.mp member with rfl | member
      · exact plain_of_isUrlChar (.inl legal.1)
      · exact ih legal.2 other member

/-! ## The line of a named object -/

theorem defect?_attachment (stdin : Bool) (container : Option String) :
    (attachment stdin container).defect? = none := by
  cases stdin <;> rfl

theorem pairs_attachment (stdin : Bool) (container : Option String) (command : List String) :
    (attachment stdin container).pairs command = pairs stdin container command := by
  simp only [Attachment.pairs, attachment, pairs, if_true, Bool.false_eq_true, if_false,
    List.append_nil, List.append_assoc, List.cons_append, List.nil_append]
  cases stdin <;> rfl

/-- With a name, and with the streams that every request asks for, only reading the URL can fail. -/
theorem assemble_attachment {name : String} (named : name ≠ "") (collection : String)
    (command : List String) (stdin : Bool) (container : Option String) :
    assemble collection name command (attachment stdin container) =
      match Uri.read (execUrl collection name (pairs stdin container command)) with
      | .error defect => .error (.badUri defect)
      | .ok uri => .ok uri.text := by
  have given : name.isEmpty = false := by simpa using named
  unfold assemble
  rw [given, defect?_attachment, pairs_attachment]
  rfl

end Request
end PodCommand
