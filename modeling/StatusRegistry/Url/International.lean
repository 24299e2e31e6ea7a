import StatusRegistry.Url.Host

/-!
# International names

Names with characters outside ASCII, mapped label by label to Punycode.

* A label is mapped if its text is folded and composed, as one that a label in Punycode stands for;
  the tables that fold and compose other texts are not part of this library, and such a name is
  refused.
-/

set_option autoImplicit false

namespace StatusRegistry.Url

open Text

/-- The label in ASCII that stands for a text. -/
def asciiLabel? (text : List Char) : Option (List Char) :=
  if text.all fun c => c.toNat < 0x80 then some text
  else if isLabelText text && text.take 4 != punycodeMark then
    some (punycodeMark ++ Punycode.encode text)
  else none

/-- The name in ASCII that bytes are mapped to. -/
def internationalName? (bytes : List UInt8) : Option (List Char) := do
  let text ← String.fromUTF8? ⟨bytes.toArray⟩
  let labels ← (splitOn (· == '.') (text.toList.map lowerAscii)).mapM asciiLabel?
  asciiName? (List.intercalate ['.'] labels)

theorem internationalName?_stable {bytes : List UInt8} {name : List Char}
    (h : internationalName? bytes = some name) : asciiName? name = some name := by
  simp only [internationalName?, Option.bind_eq_bind, Option.bind_eq_some_iff] at h
  obtain ⟨text, -, labels, -, hname⟩ := h
  exact asciiName?_idem hname

instance : DomainNames := ⟨internationalName?, internationalName?_stable⟩

end StatusRegistry.Url
