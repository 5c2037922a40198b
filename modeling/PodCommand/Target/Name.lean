import PodCommand.Text.Pieces

namespace PodCommand

/-!
Names of cluster objects, as the domain name system has them.  All allowed characters are ASCII, so
a length in characters is a length in octets.
-/

/-- Whether a character may stand in a label. -/
def isLabelChar (c : Char) : Bool :=
  ('a' ≤ c && c ≤ 'z') || ('0' ≤ c && c ≤ '9') || c == '-'

/-- Whether a text is a label: 1 to 63 lower-case letters, digits and dashes, with no dash at
either end. -/
def isLabel (text : List Char) : Bool :=
  !text.isEmpty && text.length ≤ 63 && text.all isLabelChar &&
    text.head? != some '-' && text.getLast? != some '-'

/-- Whether a text is a subdomain: at most 253 characters of labels joined by dots. -/
def isSubdomain (text : List Char) : Bool :=
  text.length ≤ 253 && (Text.pieces '.' text).all isLabel

end PodCommand
