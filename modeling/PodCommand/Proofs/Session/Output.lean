import PodCommand.Proofs.Text.Lossy
import PodCommand.Session.Output

namespace PodCommand

/-!
The texts of what a command has left.

Both outputs are read alike, and neither has a part in how the other is read.  What is well-formed
UTF-8 is kept as it is; of anything else every character is kept in its place, with one U+FFFD for
what is ill formed between them.
-/

namespace Text.Utf8

/-- A text is what octets are read as, whether or not they are well formed. -/
structure IsLossy (bytes : Bytes) (text : List Char) : Prop where
  /-- Characters are kept and maximal ill-formed subparts replaced, which can be done in one way. -/
  reads : ∀ other, Reads bytes other ↔ other = text
  unchanged : ∀ chars, encode chars = bytes → text = chars
  /-- No well-formed character is lost, altered or moved, wherever it stands. -/
  kept : ∀ before c after, bytes = before ++ encodeChar c ++ after →
    text = decodeLossy before ++ c :: decodeLossy after
  again : decodeLossy (encode text) = text
  append : ∀ chars, encode chars = bytes → ∀ more,
    decodeLossy (bytes ++ more) = text ++ decodeLossy more

theorem isLossy_decodeLossy (bytes : Bytes) : IsLossy bytes (decodeLossy bytes) where
  reads _ := reads_iff
  unchanged := by
    rintro chars rfl
    exact decodeLossy_of_decode? (decode?_encode chars)
  kept := by
    rintro before c after rfl
    exact decodeLossy_append_encodeChar_append before c after
  again := decodeLossy_of_decode? (decode?_encode _)
  append := by
    rintro chars rfl more
    rw [decodeLossy_encode_append, decodeLossy_of_decode? (decode?_encode chars)]

end Text.Utf8

namespace Output

open Text.Utf8

/-- The texts of an output are those of its octets. -/
structure HasTexts (output : Output) : Prop where
  both : output.texts = (output.stdoutText, output.stderrText)
  stdout : IsLossy output.stdout output.stdoutText.toList
  stderr : IsLossy output.stderr output.stderrText.toList
  /-- The octets of a text are those that the library gives it. -/
  octets : ∀ text : List Char, encode text = text.flatMap String.utf8EncodeChar

theorem texts_lossy (output : Output) : output.HasTexts where
  both := rfl
  stdout := by
    rw [stdoutText, String.toList_ofList]
    exact isLossy_decodeLossy output.stdout
  stderr := by
    rw [stderrText, String.toList_ofList]
    exact isLossy_decodeLossy output.stderr
  octets text :=
    congrArg (fun write => text.flatMap write) (funext encodeChar_eq_utf8EncodeChar)

/-- A character cut short before a letter is replaced as a whole, and a surrogate octet by octet. -/
example : (Output.mk [0xF0, 0x9F, 0x98, 0x41] [0xED, 0xA0, 0x80] default).texts =
    ("\uFFFDA", "\uFFFD\uFFFD\uFFFD") := by
  decide +kernel

end Output
end PodCommand
