import StatusRegistry.Proofs.Verification
import StatusRegistry.Proofs.Verification.Range

/-!
# The codes of messages

Which texts are read as the code of a message: the hexadecimal literals of a byte, and, beside them,
literals in which a plus sign stands in front of the digits.  So the message that a verifier tells
of a code may be one whose text is no literal.

* `StatusMessage.Literal`: hexadecimal literals, with what stands in front of their digits;
* `StatusMessage.code?_eq_some_iff`: what is read as a code;
* `ListSubject.Says`: the text that a list tells of a code, by what its messages are written as;
* `messages_named`: which texts are read as codes, and which message a verifier tells.
-/

set_option autoImplicit false

namespace StatusRegistry

open Text

namespace StatusMessage

variable {m : StatusMessage} {sign : List Char} {text : String} {n k : Nat} {cs : List Char}

/-- A text is a hexadecimal literal of a number, with a sign in front of the digits. -/
def Literal (sign : List Char) (text : String) (n : Nat) : Prop :=
  ∃ x digits, (x = 'x' ∨ x = 'X') ∧ text.toList = '0' :: x :: (sign ++ digits) ∧
    Numeral 16 digits n

/-! ## What is read as a code -/

theorem codeDigits?_eq_some_iff {digits : List Char} :
    codeDigits? cs = some digits ↔ ∃ x, (x = 'x' ∨ x = 'X') ∧ cs = '0' :: x :: digits := by
  constructor
  · intro h
    unfold codeDigits? at h
    split at h
    · cases h
      exact ⟨'x', .inl rfl, rfl⟩
    · cases h
      exact ⟨'X', .inr rfl, rfl⟩
    · cases h
  · rintro ⟨x, rfl | rfl, rfl⟩
    · rfl
    · rfl

/-- No numeral begins with a plus sign. -/
theorem not_numeral_plus : ¬ Numeral 16 ('+' :: cs) n := by
  intro h
  cases (value?_plus cs).symm.trans ((value?_eq_some_iff (by decide)).mpr h)

/-- The reader of codes takes numerals, and numerals behind a plus sign. -/
theorem value?_dropPlus_iff :
    value? 16 (dropPlus cs) = some n ↔
      Numeral 16 cs n ∨ ∃ digits, cs = '+' :: digits ∧ Numeral 16 digits n := by
  rw [value?_eq_some_iff (by decide)]
  unfold dropPlus
  split
  · rename_i digits
    constructor
    · exact fun h => .inr ⟨digits, rfl, h⟩
    · rintro (h | ⟨_, heq, h⟩)
      · exact absurd h not_numeral_plus
      · cases heq
        exact h
  · rename_i hplus
    refine (or_iff_left ?_).symm
    rintro ⟨digits, rfl, -⟩
    exact hplus digits rfl

/-- A code is the value of the digits behind the prefix, if it is that of a byte. -/
theorem code?_iff_digits {code : UInt8} :
    m.code? = some code ↔ ∃ digits, codeDigits? m.status.toList = some digits ∧
      value? 16 (dropPlus digits) = some code.toNat := by
  unfold code?
  cases codeDigits? m.status.toList with
  | none => simp
  | some digits =>
    simp only [Option.some.injEq, exists_eq_left']
    cases value? 16 (dropPlus digits) with
    | none => simp
    | some found =>
      simp only [Option.some.injEq]
      by_cases hbyte : found < 256
      · rw [if_pos hbyte, Option.some.injEq]
        constructor
        · rintro rfl
          exact (UInt8.toNat_ofNat_of_lt' hbyte).symm
        · rintro rfl
          exact UInt8.ofNat_toNat
      · rw [if_neg hbyte]
        simp only [reduceCtorEq, false_iff]
        rintro rfl
        exact hbyte code.toNat_lt

/-- **What is read as a code**: a hexadecimal literal of it, or one with a plus sign. -/
theorem code?_eq_some_iff {code : UInt8} :
    m.code? = some code ↔
      Literal [] m.status code.toNat ∨ Literal ['+'] m.status code.toNat := by
  simp only [code?_iff_digits, codeDigits?_eq_some_iff, value?_dropPlus_iff, Literal]
  constructor
  · rintro ⟨cs, ⟨x, hx, htext⟩, hvalue | ⟨digits, rfl, hvalue⟩⟩
    · exact .inl ⟨x, cs, hx, htext, hvalue⟩
    · exact .inr ⟨x, digits, hx, htext, hvalue⟩
  · rintro (⟨x, digits, hx, htext, hvalue⟩ | ⟨x, digits, hx, htext, hvalue⟩)
    · exact ⟨digits, ⟨x, hx, htext⟩, .inl hvalue⟩
    · exact ⟨'+' :: digits, ⟨x, hx, htext⟩, .inr ⟨digits, rfl, hvalue⟩⟩

/-- No literal is one with a plus sign as well. -/
theorem Literal.unsigned (h : Literal [] text n) : ¬ Literal ['+'] text k := by
  rintro ⟨y, digits', -, htext', -⟩
  obtain ⟨x, digits, -, htext, hvalue⟩ := h
  cases htext.symm.trans htext'
  exact not_numeral_plus hvalue

/-- **The literals of a byte are what is read as a code just of texts without a plus sign.** -/
theorem code?_literal_iff :
    (∀ code, m.code? = some code ↔ Literal [] m.status code.toNat) ↔
      ¬ ∃ n < 256, Literal ['+'] m.status n := by
  simp only [code?_eq_some_iff]
  constructor
  · rintro h ⟨n, hn, hsigned⟩
    have hback : (UInt8.ofNat n).toNat = n := UInt8.toNat_ofNat_of_lt' hn
    have hliteral := (h (.ofNat n)).mp (.inr (hback.symm ▸ hsigned))
    exact hliteral.unsigned hsigned
  · intro h code
    refine or_iff_left fun hsigned => h ⟨code.toNat, code.toNat_lt, hsigned⟩

end StatusMessage

/-! ## What a verifier tells -/

/-- A message names a code: its text is a literal of the code, or one with a plus sign. -/
def StatusMessage.Names (m : StatusMessage) (code : UInt8) : Prop :=
  Literal [] m.status code.toNat ∨ Literal ['+'] m.status code.toNat

/-- The text that a list says of a code: the first of its messages that names the code, else the
label of its purpose. -/
def ListSubject.Says (list : ListSubject) (code : UInt8) (text : String) : Prop :=
  (∃ messages front m back, list.messages = some messages ∧ messages = front ++ m :: back ∧
      (∀ other ∈ front, ¬ other.Names code) ∧ m.Names code ∧ text = m.message) ∨
    (∀ messages, list.messages = some messages → ∀ m ∈ messages, ¬ m.Names code) ∧
      text = list.purpose.label code

theorem ListSubject.tells_iff_says {list : ListSubject} {code : UInt8} {text : String} :
    list.Tells code text ↔ list.Says code text := by
  simp only [Tells, Says, StatusMessage.Names, StatusMessage.code?_eq_some_iff, ne_eq]

/-- The first slot of a list of empty slots is read. -/
theorem readClaimed_leastList (messages : Option (List StatusMessage)) :
    readClaimed (leastClaim "0") (leastList messages).subject = .ok (0, 0) := by
  have hdecode : (Bitstring.decode (leastList messages).subject.encodedList).mapError
      CheckError.decode = .ok (Bitstring.zeroed 131072 .one) := by
    rw [decode_leastList]
    rfl
  have hindex : (leastClaim "0").index.mapError CheckError.document = .ok 0 := by decide
  have hslot : (Bitstring.readSlot (Bitstring.zeroed 131072 .one) (0 : UInt64).toNat .one).mapError
      CheckError.decode = .ok 0 := by
    rw [Bitstring.readSlot_zeroed (by decide)]
    rfl
  have hwidth : (leastList messages).subject.slotWidth = .one := rfl
  unfold readClaimed
  rw [hdecode, ok_bind, Bitstring.size_zeroed, hwidth, hindex]
  refine (if_neg (by decide)).trans ?_
  rw [ok_bind]
  refine (if_neg (by decide)).trans ?_
  rw [hslot]
  rfl

/-- What the list says of an empty slot is told of the first one. -/
theorem checkStatus_leastList (messages : Option (List StatusMessage)) :
    checkStatus (leastClaim "0") (leastList messages) .epoch =
      .ok ⟨.revocation, 0, 0, messageFor (leastList messages).subject 0⟩ := by
  unfold checkStatus
  dsimp only
  rw [readClaimed_leastList]
  rfl

/-- **Which texts are read as codes, and which message is told of a status.**  A text is read as a
code iff it is a hexadecimal literal of it or one with a plus sign; so a message has the codes of
its literals iff no plus sign stands there.  The text that a verifier tells is the one of the first
message that names the status in this way, else the label of the purpose. -/
theorem messages_named (m : StatusMessage) :
    (∀ code, m.code? = some code ↔ StatusMessage.Literal [] m.status code.toNat ∨
        StatusMessage.Literal ['+'] m.status code.toNat) ∧
      ((∀ code, m.code? = some code ↔ StatusMessage.Literal [] m.status code.toNat) ↔
        ¬ ∃ n < 256, StatusMessage.Literal ['+'] m.status n) ∧
      ∀ (claim : StatusClaim) (credential : ListCredential) (now : Instant) (found : StatusCheck),
        checkStatus claim credential now = .ok found →
          credential.subject.Says found.status found.message := by
  refine ⟨fun _ => StatusMessage.code?_eq_some_iff, StatusMessage.code?_literal_iff,
    fun claim credential now found h => ?_⟩
  rw [← ListSubject.tells_iff_says, (checkStatus_eq_ok h).2.2]
  exact messageFor_tells _ _

/-- Of two messages that name a status the first one is told, and zeros in front do not matter. -/
theorem sample_message_said :
    (leastList (some [⟨"0x000", "x"⟩, ⟨"0x0", "y"⟩])).subject.Says 0 "x" :=
  (messages_named ⟨"0x0", "y"⟩).2.2 _ _ _ _
    (checkStatus_leastList (some [⟨"0x000", "x"⟩, ⟨"0x0", "y"⟩]))

/-- A message whose text is no literal is told of a status: a plus sign stands in it. -/
theorem signed_message_told :
    (⟨"0x+0", "x"⟩ : StatusMessage).code? = some 0 ∧
      (∀ n, ¬ StatusMessage.Literal [] "0x+0" n) ∧
      checkStatus (leastClaim "0") (leastList (some [⟨"0x+0", "x"⟩])) .epoch =
        .ok ⟨.revocation, 0, 0, "x"⟩ := by
  have hzero : Numeral 16 ['0'] 0 := (value?_eq_some_iff (by decide)).mp (by decide)
  have hsigned : StatusMessage.Literal ['+'] "0x+0" 0 := ⟨'x', ['0'], .inl rfl, rfl, hzero⟩
  exact ⟨StatusMessage.code?_eq_some_iff.mpr (.inr hsigned), fun n h => h.unsigned hsigned,
    checkStatus_leastList _⟩

end StatusRegistry
