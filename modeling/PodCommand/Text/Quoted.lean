import PodCommand.Text.Digits
import PodCommand.Text.Extending
import PodCommand.Text.Unprintable

namespace PodCommand
namespace Text

/-!
Quoted text: how a value that nobody has checked is shown in a message.  Between two double quotes
stands every character that is plainly visible; all others are written as an escape, so quoted
text never holds a raw control character and cannot break a line of a log.
-/

/-- Where quoted text differs between kinds of value: a file path also escapes the apostrophe. -/
structure QuoteStyle where
  escapesApostrophe : Bool

/-- The style of ordinary text. -/
def QuoteStyle.text : QuoteStyle := ⟨false⟩

/-- The style of file paths. -/
def QuoteStyle.path : QuoteStyle := ⟨true⟩

/-- One character as it stands in quoted text. -/
def QuoteStyle.escape (style : QuoteStyle) (c : Char) : List Char :=
  if c = '"' then ['\\', '"']
  else if c = '\\' then ['\\', '\\']
  else if c = '\n' then ['\\', 'n']
  else if c = '\r' then ['\\', 'r']
  else if c = '\t' then ['\\', 't']
  else if c = '\x00' then ['\\', '0']
  else if c = '\'' then if style.escapesApostrophe then ['\\', '\''] else [c]
  else if isExtending c || isUnprintable c then
    ['\\', 'u', '\x7b'] ++ hexNumeral c.toNat ++ ['\x7d']
  else [c]

/-- Text between double quotes in a style. -/
def QuoteStyle.quote (style : QuoteStyle) (text : String) : String :=
  String.ofList ('"' :: (text.toList.flatMap style.escape ++ ['"']))

/-- Ordinary text between double quotes. -/
def quoted (text : String) : String :=
  QuoteStyle.text.quote text

end Text
end PodCommand
