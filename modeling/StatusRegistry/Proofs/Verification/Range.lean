import StatusRegistry.Proofs.Document.Index
import StatusRegistry.Proofs.Verification.Order

/-!
# Indices behind a list

What a verifier makes of a claim whose index is a decimal numeral, if everything that it checks in
front of the index is right.  An index in the list is read, and one behind it is out of range; but
an index that does not fit a machine word is taken for one that is no number at all, though every
such index lies behind every list.

* `Check.front`: the checks in front of the index;
* `checkStatus_rest`: where they pass, the index decides;
* `refused_of_large`, `checkStatus_error_iff`: indices that do not fit a machine word, and others;
* `IndexVerdict`: what becomes of an index, by its number;
* `index_verdict`: it is what the verifier decides.
-/

set_option autoImplicit false

namespace StatusRegistry

open Text

/-- The checks in front of the index. -/
def Check.front (claim : StatusClaim) (credential : ListCredential) (now : Instant) : List Check :=
  [claimType claim, credentialTypes credential, subjectType credential.subject,
    started credential now, notEnded credential now,
    purposes claim credential.subject, widths claim credential.subject,
    decodes credential.subject, longEnough credential.subject]

/-- What a verifier makes of an index of number `n` in a list of `capacity` slots. -/
structure IndexVerdict (claim : StatusClaim) (credential : ListCredential) (now : Instant)
    (n capacity : Nat) : Prop where
  /-- No list has more slots than a machine word can count. -/
  capacity_lt : capacity < 2 ^ 64
  /-- A status is told iff the index lies in the list, and it is the one of that slot. -/
  told_iff : (∃ found, checkStatus claim credential now = .ok found) ↔ n < capacity
  told : ∀ found, checkStatus claim credential now = .ok found → found.index.toNat = n
  /-- An index behind the list is out of range iff it fits a machine word. -/
  outOfRange : capacity ≤ n → n < 2 ^ 64 →
    checkStatus claim credential now = .error (.indexOutOfRange n capacity)
  rangeError_iff : (∃ e, checkStatus claim credential now = .error e ∧
    e.processingError = "RANGE_ERROR") ↔ capacity ≤ n ∧ n < 2 ^ 64
  /-- An index that does not fit is told to be no number. -/
  refused : 2 ^ 64 ≤ n →
    checkStatus claim credential now = .error (.document (.invalidIndex claim.indexText))

section Index

variable {claim : StatusClaim} {credential : ListCredential} {now : Instant} {n : Nat}

/-- **Where all checks in front of the index pass, the index decides.** -/
theorem checkStatus_rest (h : ∀ check ∈ Check.front claim credential now, ∀ e, ¬ check e) :
    Decides (checkStatus claim credential now)
      [Check.indexReads claim, Check.indexWithin claim credential.subject] := by
  have hall : Decides (checkStatus claim credential now) (Check.front claim credential now ++
      [Check.indexReads claim, Check.indexWithin claim credential.subject]) := checkStatus_decides
  exact hall.rest h

/-- A list whose text passes its check stands for bytes. -/
theorem exists_decode (h : ∀ check ∈ Check.front claim credential now, ∀ e, ¬ check e) :
    ∃ data, Bitstring.decode credential.subject.encodedList = .ok data := by
  have hdecodes : ∀ e, ¬ Check.decodes credential.subject e := h _ (by simp [Check.front])
  cases hdata : Bitstring.decode credential.subject.encodedList with
  | ok data => exact ⟨data, rfl⟩
  | error cause => exact absurd ⟨cause, hdata, rfl⟩ (hdecodes (.decode cause))

variable {data : ByteArray}

/-- An index that does not fit a machine word is told to be no number. -/
theorem refused_of_large (h : ∀ check ∈ Check.front claim credential now, ∀ e, ¬ check e)
    (hindex : Numeral 10 claim.indexText.toList n) (hn : 2 ^ 64 ≤ n) :
    checkStatus claim credential now = .error (.document (.invalidIndex claim.indexText)) := by
  have hnone : ¬ ∃ m < 2 ^ 64, Numeral 10 claim.indexText.toList m := by
    rintro ⟨m, hm, hnumeral⟩
    exact absurd hm (hnumeral.unique (by decide) hindex ▸ Nat.not_lt.mpr hn)
  exact (checkStatus_rest h _).mpr (.inl ⟨_, StatusClaim.index_of_not_exists hnone, rfl⟩)

/-- An index that fits a machine word is read, and what becomes of it depends on the list alone. -/
theorem checkStatus_decides_within
    (h : ∀ check ∈ Check.front claim credential now, ∀ e, ¬ check e)
    (hindex : Numeral 10 claim.indexText.toList n) (hn : n < 2 ^ 64) :
    Decides (checkStatus claim credential now) [Check.indexWithin claim credential.subject] := by
  have hrest : Decides (checkStatus claim credential now)
      ([Check.indexReads claim] ++ [Check.indexWithin claim credential.subject]) :=
    checkStatus_rest h
  refine hrest.rest fun check hcheck => ?_
  cases List.mem_singleton.mp hcheck
  rintro e ⟨cause, hcause, -⟩
  cases (StatusClaim.index_of_numeral hindex hn).symm.trans hcause

/-- The last check fails just for an index behind the list. -/
theorem indexWithin_iff (hdata : Bitstring.decode credential.subject.encodedList = .ok data)
    (hindex : Numeral 10 claim.indexText.toList n) (hn : n < 2 ^ 64) {e : CheckError} :
    Check.indexWithin claim credential.subject e ↔
      8 * data.size / credential.subject.slotWidth.bits ≤ n ∧
        e = .indexOutOfRange n (8 * data.size / credential.subject.slotWidth.bits) := by
  have hread : claim.index = .ok (.ofNat n) := StatusClaim.index_of_numeral hindex hn
  have hback : (UInt64.ofNat n).toNat = n := UInt64.toNat_ofNat_of_lt' hn
  unfold Check.indexWithin
  simp only [hdata, hread, Except.ok.injEq, exists_and_left, exists_eq_left', hback]
  rfl

/-- An index that fits a machine word is refused just if it lies behind the list, and then it is out
of range. -/
theorem checkStatus_error_iff (h : ∀ check ∈ Check.front claim credential now, ∀ e, ¬ check e)
    (hdata : Bitstring.decode credential.subject.encodedList = .ok data)
    (hindex : Numeral 10 claim.indexText.toList n) (hn : n < 2 ^ 64) {e : CheckError} :
    checkStatus claim credential now = .error e ↔
      8 * data.size / credential.subject.slotWidth.bits ≤ n ∧
        e = .indexOutOfRange n (8 * data.size / credential.subject.slotWidth.bits) := by
  rw [checkStatus_decides_within h hindex hn e, ← indexWithin_iff hdata hindex hn]
  simp [FirstFailure]

/-- The index that is told is the number that the text of the claim writes. -/
theorem index_of_told (hindex : Numeral 10 claim.indexText.toList n) {found : StatusCheck}
    (hfound : checkStatus claim credential now = .ok found) : found.index.toNat = n := by
  obtain ⟨-, hread, -⟩ := checkStatus_eq_ok hfound
  obtain ⟨-, -, hfoundIndex, -⟩ := readClaimed_eq_ok hread
  exact (StatusClaim.index_eq_ok_iff.mp hfoundIndex).unique (by decide) hindex

/-- No list that is read has more slots than a machine word can count. -/
theorem capacity_lt_of_decode (hdata : Bitstring.decode credential.subject.encodedList = .ok data) :
    8 * data.size / credential.subject.slotWidth.bits < 2 ^ 64 := by
  have hsize := Bitstring.size_le_of_decode hdata
  have hle := Nat.div_le_self (8 * data.size) credential.subject.slotWidth.bits
  unfold Bitstring.maxDecodedLength at hsize
  omega

/-- **What a verifier makes of an index whose text is a decimal numeral**, if all checks in front of
the index pass. -/
theorem index_verdict (h : ∀ check ∈ Check.front claim credential now, ∀ e, ¬ check e)
    (hindex : Numeral 10 claim.indexText.toList n) :
    ∃ data, Bitstring.decode credential.subject.encodedList = .ok data ∧
      IndexVerdict claim credential now n
        (8 * data.size / credential.subject.slotWidth.bits) := by
  obtain ⟨data, hdata⟩ := exists_decode h
  refine ⟨data, hdata, ?_⟩
  have hfits := capacity_lt_of_decode hdata
  have hwithin : n < 2 ^ 64 → ∀ e, checkStatus claim credential now = .error e ↔ _ :=
    fun hn _ => checkStatus_error_iff h hdata hindex hn
  have hrefused : 2 ^ 64 ≤ n → _ := refused_of_large h hindex
  generalize 8 * data.size / credential.subject.slotWidth.bits = capacity at hfits hwithin ⊢
  have houtOfRange : capacity ≤ n → n < 2 ^ 64 →
      checkStatus claim credential now = .error (.indexOutOfRange n capacity) :=
    fun hle hn => (hwithin hn _).mpr ⟨hle, rfl⟩
  refine ⟨hfits, ⟨?_, ?_⟩, fun _ => index_of_told hindex, houtOfRange, ⟨?_, ?_⟩, hrefused⟩
  · rintro ⟨found, hfound⟩
    have hn : n < 2 ^ 64 := index_of_told hindex hfound ▸ found.index.toNat_lt
    refine Nat.not_le.mp fun hle => ?_
    cases hfound.symm.trans (houtOfRange hle hn)
  · intro hlt
    cases hresult : checkStatus claim credential now with
    | ok found => exact ⟨found, rfl⟩
    | error e =>
      have hle := ((hwithin (Nat.lt_trans hlt hfits) e).mp hresult).1
      exact absurd hlt (Nat.not_lt.mpr hle)
  · rintro ⟨e, he, hname⟩
    by_cases hn : n < 2 ^ 64
    · exact ⟨((hwithin hn e).mp he).1, hn⟩
    · cases he.symm.trans (hrefused (Nat.not_lt.mp hn))
      exact absurd (show "STATUS_VERIFICATION_ERROR" = "RANGE_ERROR" from hname) (by decide)
  · rintro ⟨hle, hn⟩
    exact ⟨_, houtOfRange hle hn, rfl⟩

end Index

/-! ## An index at each side of the end -/

/-- A list of as few slots as any list may have, with all of them empty, which is valid at all
times. -/
def leastList (messages : Option (List StatusMessage)) : ListCredential :=
  { context := .single "", id := none, issuer := .id "", validFrom := none, validUntil := none
    proof := none, type := .several [CredentialType.verifiable, ListCredential.typeName]
    subject := ⟨none, ListSubject.typeName, .revocation,
      Bitstring.encode (Bitstring.zeroed 131072 .one), none, none, messages⟩ }

/-- A claim on a slot of such a list. -/
def leastClaim (index : String) : StatusClaim :=
  ⟨none, StatusClaim.typeName, .revocation, index, none, ""⟩

theorem decode_leastList (messages : Option (List StatusMessage)) :
    Bitstring.decode (leastList messages).subject.encodedList =
      .ok (Bitstring.zeroed 131072 .one) :=
  Bitstring.decode_encode (by rw [Bitstring.size_zeroed]; decide)

/-- Whatever its index, such a claim passes all checks in front of it. -/
theorem front_leastList (index : String) (messages : Option (List StatusMessage)) (now : Instant) :
    ∀ check ∈ Check.front (leastClaim index) (leastList messages) now, ∀ e, ¬ check e := by
  have hdata := decode_leastList messages
  have hsize : (Bitstring.zeroed 131072 .one).size = 16384 := Bitstring.size_zeroed _ _
  simp only [Check.front, List.forall_mem_cons, List.not_mem_nil, false_imp_iff, implies_true,
    and_true]
  refine ⟨?_, ?_, ?_, ?_, ?_, ?_, ?_, ?_, ?_⟩
  · rintro e ⟨h, -⟩
    exact h rfl
  · rintro e ⟨h, -⟩
    exact h ⟨List.mem_cons_self, List.mem_cons_of_mem _ List.mem_cons_self⟩
  · rintro e ⟨h, -⟩
    exact h rfl
  · rintro e ⟨_, h, -⟩
    cases h
  · rintro e ⟨_, h, -⟩
    cases h
  · rintro e ⟨h, -⟩
    exact h rfl
  · rintro e ⟨h, -⟩
    exact h rfl
  · rintro e ⟨_, h, -⟩
    exact nomatch hdata.symm.trans h
  · rintro e ⟨data, h, hshort, -⟩
    rw [Except.ok.inj (h.symm.trans hdata), hsize] at hshort
    exact absurd hshort (show ¬ 8 * 16384 < 131072 * SlotWidth.one.bits by decide)

/-- The texts of three numbers: the last index of the list, the first one behind it, and the first
one that does not fit a machine word. -/
theorem numeral_samples : Numeral 10 "131071".toList 131071 ∧ Numeral 10 "131072".toList 131072 ∧
    Numeral 10 "18446744073709551616".toList 18446744073709551616 :=
  ⟨(value?_eq_some_iff (by decide)).mp (by decide), (value?_eq_some_iff (by decide)).mp (by decide),
    (value?_eq_some_iff (by decide)).mp (by decide)⟩

/-- The last slot of a list is read, and one index behind it is out of range. -/
theorem leastList_ends :
    (∃ found, checkStatus (leastClaim "131071") (leastList none) .epoch = .ok found) ∧
      checkStatus (leastClaim "131072") (leastList none) .epoch =
        .error (.indexOutOfRange 131072 131072) := by
  have hcapacity : ∀ data, Bitstring.decode (leastList none).subject.encodedList = .ok data →
      8 * data.size / (leastList none).subject.slotWidth.bits = 131072 := by
    intro data hdata
    rw [Except.ok.inj (hdata.symm.trans (decode_leastList none)), Bitstring.size_zeroed]
    rfl
  obtain ⟨last, behind, -⟩ := numeral_samples
  obtain ⟨data, hdata, hlast⟩ := index_verdict (front_leastList "131071" none .epoch) last
  obtain ⟨data', hdata', hbehind⟩ := index_verdict (front_leastList "131072" none .epoch) behind
  rw [hcapacity data hdata] at hlast
  rw [hcapacity data' hdata'] at hbehind
  exact ⟨hlast.told_iff.mpr (by decide), hbehind.outOfRange (by decide) (by decide)⟩

/-- The first index that does not fit a machine word lies behind the list, and is told to be no
number instead of out of range. -/
theorem large_index_refused :
    (∀ check ∈ Check.front (leastClaim "18446744073709551616") (leastList none) .epoch,
        ∀ e, ¬ check e) ∧
      Numeral 10 "18446744073709551616".toList 18446744073709551616 ∧
      (∃ data, Bitstring.decode (leastList none).subject.encodedList = .ok data ∧
        8 * data.size / (leastList none).subject.slotWidth.bits ≤ 18446744073709551616) ∧
      ∃ e, checkStatus (leastClaim "18446744073709551616") (leastList none) .epoch = .error e ∧
        (∀ index capacity, e ≠ .indexOutOfRange index capacity) ∧
        e.processingError ≠ "RANGE_ERROR" := by
  have hfront := front_leastList "18446744073709551616" none .epoch
  refine ⟨hfront, numeral_samples.2.2, ⟨_, decode_leastList none, ?_⟩, _,
    refused_of_large hfront numeral_samples.2.2 (by decide), nofun, by decide⟩
  rw [Bitstring.size_zeroed]
  decide

end StatusRegistry
