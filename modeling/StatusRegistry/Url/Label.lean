import StatusRegistry.Text.Composition
import StatusRegistry.Text.Direction
import StatusRegistry.Text.Folding
import StatusRegistry.Text.Joining
import StatusRegistry.Url.Punycode

/-!
# Labels of domain names

The labels of a name, and the texts that they stand for.  A label in Punycode has to stand for a
text that needs it: one with a character outside ASCII, folded and composed, that does not begin
with a combining mark and has no joiner without effect.  If a label has a character that is written
from right to left, then all labels have to keep their places beside it.

* `labelText?_plain`: a label without the mark of Punycode stands for itself;
* `areSound_left`: labels without characters from right to left are only looked into one by one.
-/

set_option autoImplicit false

namespace StatusRegistry.Url

open Text

/-- What a label in Punycode begins with. -/
def punycodeMark : List Char := "xn--".toList

/-- The greatest number of characters behind the mark of Punycode; a longer label is refused. -/
def longestPunycode : Nat := 2000

/-- The greatest number of characters that the text of a label in Punycode may have. -/
def longestLabelText : Nat := 1000

/-- The characters that no text of a label has, though they stand for themselves: those that say
how an ideograph is put together, the full stop of ideographic scripts, which would end the label,
and the two marks of a missing object. -/
def neverInLabel : List (Nat × Nat) :=
  [(0x2ff0, 0x2fff), (0x3002, 0x3002), (0x31ef, 0x31ef), (0xfffc, 0xfffd)]

/-- Whether a character may stand in the text of a label. -/
def inLabelText (c : Char) : Bool :=
  decide (c.toNat < 0x80) || isJoiner c ||
    (standsForItself c && !inRanges c.toNat neverInLabel)

/-- Whether a text is one that a label in Punycode may stand for. -/
def isLabelText (text : List Char) : Bool :=
  text.any (fun c => decide (0x80 ≤ c.toNat)) && decide (text.length ≤ longestLabelText) &&
    text.all inLabelText && isComposed text && !text.head?.any isMark && joinersFit [] text

/-- The text that a label in lower case stands for, if there is one. -/
def labelText? (label : List Char) : Option (List Char) :=
  if label.take 4 = punycodeMark then
    if longestPunycode < (label.drop 4).length then none
    else (Punycode.decode (label.drop 4)).filter isLabelText
  else some label

theorem labelText?_plain {label : List Char} (h : label.take 4 ≠ punycodeMark) :
    labelText? label = some label := if_neg h

/-- Whether the labels of a name, in lower case, may stand beside each other. -/
def areSound (labels : List (List Char)) : Bool :=
  match labels.mapM labelText? with
  | none => false
  | some texts => !texts.any hasRight || texts.all fun text => keepsOrder (text.map direction)

theorem areSound_left {labels texts : List (List Char)} (h : labels.mapM labelText? = some texts)
    (left : ∀ text ∈ texts, hasRight text = false) : areSound labels = true := by
  have : texts.any hasRight = false := by simpa using left
  simp [areSound, h, this]

end StatusRegistry.Url
