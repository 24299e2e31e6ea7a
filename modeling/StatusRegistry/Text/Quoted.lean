import StatusRegistry.Text.Hidden
import StatusRegistry.Text.Numeral

/-!
# Quoted text

A text as error messages show it: between double quotes, with a backslash in front of quotes and
backslashes, short escapes for the usual controls, and the code point in hexadecimal for every
other character without a visible form of its own.

* `escape_plain`: a visible character that is neither a quote nor a backslash stands for itself.
-/

set_option autoImplicit false

namespace StatusRegistry.Text

/-- The characters that stand for one character between the quotes. -/
def escape (c : Char) : List Char :=
  match c with
  | '\x00' => ['\\', '0']
  | '\t' => ['\\', 't']
  | '\r' => ['\\', 'r']
  | '\n' => ['\\', 'n']
  | '"' => ['\\', '"']
  | '\\' => ['\\', '\\']
  | c => if isHidden c then ['\\', 'u', '\x7b'] ++ hex c.toNat ++ ['\x7d'] else [c]

/-- A text between double quotes, with its characters escaped. -/
def quoted (s : String) : String :=
  String.ofList ('"' :: s.toList.flatMap escape ++ ['"'])

theorem escape_plain {c : Char} (hq : c ≠ '"') (hb : c ≠ '\\') (hv : isHidden c = false) :
    escape c = [c] := by
  have hlow : ¬ c.toNat < 0x20 := fun h => by simp [isHidden_of_control h] at hv
  have hne : ∀ d : Char, d.toNat < 0x20 → c ≠ d := by
    intro d hd hcd
    exact hlow (hcd ▸ hd)
  unfold escape
  split <;> simp_all

end StatusRegistry.Text
