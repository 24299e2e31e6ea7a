import StatusRegistry.Proofs.Service.Dialogue
import StatusRegistry.Service.Assignment

/-!
# What an assignment asks

Giving a credential its slot, followed for every sequence of answers: nothing is known of the
store, which may fail at any step and need not remember what it said before.

* `Looking`, `IsAttempt`: the requests of one attempt.  It submits an entry only for the list and
  the slot that it was told just before;
* `Ends`: how a log ends.  An entry is made in the last request, or none is made;
* `says_chooseSlot`, `says_attempt`, `says_attempts`: one lemma for each service;
* `assign_orderly`: what an assignment asks, and what it takes, whatever it is answered.
-/

set_option autoImplicit false

namespace StatusRegistry

/-- A request that reads a list or makes one. -/
def StoreRequest.Looks : StoreRequest → Prop
  | .createList _ => True
  | .findList _ => True
  | _ => False

theorem Inquiry.made_of_looks {x : Inquiry} (h : x.request.Looks) : x.made = [] := by
  obtain ⟨q, answer⟩ := x
  cases q with
  | createList r => rfl
  | findList list => rfl
  | _ => cases h

namespace Service

variable {c : Config} {a : Assignment} {log part : List Inquiry}

/-- At most `n` requests, each of which reads a list or makes one. -/
structure Looking (n : Nat) (log : List Inquiry) : Prop where
  length_le : log.length ≤ n
  looks : ∀ x ∈ log, x.request.Looks

namespace Looking

variable {n m : Nat} {front back : List Inquiry}

theorem nil : Looking 0 [] := ⟨Nat.le_refl 0, by simp⟩

theorem single {x : Inquiry} (h : x.request.Looks) : Looking 1 [x] :=
  ⟨Nat.le_refl 1, by simpa using h⟩

theorem append (hfront : Looking n front) (hback : Looking m back) :
    Looking (n + m) (front ++ back) := by
  refine ⟨?_, List.forall_mem_append.mpr ⟨hfront.looks, hback.looks⟩⟩
  rw [List.length_append]
  exact Nat.add_le_add hfront.length_le hback.length_le

theorem mono (h : Looking n log) (hle : n ≤ m) : Looking m log :=
  ⟨Nat.le_trans h.length_le hle, h.looks⟩

theorem noneMade (h : Looking n log) : NoneMade log :=
  fun x hx => Inquiry.made_of_looks (h.looks x hx)

end Looking

/-! ## Choosing a slot -/

theorem says_createList {r : ListRequest} {result : Except ServiceError StatusList}
    (h : (createList c r).run.Says log result) : Looking 1 log := by
  rcases says_check_bind_iff.mp h with ⟨err, -, rfl, -⟩ | ⟨plan, -, hask⟩
  · exact Looking.nil.mono (Nat.zero_le 1)
  · obtain ⟨answer, rfl, -⟩ := says_ask_iff.mp hask
    exact Looking.single trivial

/-- A list is read with one request. -/
theorem says_getList {list : ListId} {result : Except ServiceError StatusList}
    (h : (getList list).run.Says log result) :
    ∃ answer, log = [⟨.findList list, answer⟩] ∧ ∀ l, result = .ok l → answer = .ok (some l) := by
  rcases says_ask_bind_iff.mp h with ⟨answer, err, rfl, -, rfl⟩ |
    ⟨answer, found, rest, rfl, hanswer, hrest⟩
  · exact ⟨answer, rfl, by rintro l ⟨⟩⟩
  · cases found with
    | none =>
      obtain ⟨rfl, rfl⟩ := says_throw_iff.mp hrest
      exact ⟨answer, rfl, by rintro l ⟨⟩⟩
    | some l =>
      obtain ⟨rfl, rfl⟩ := says_pure_iff.mp hrest
      refine ⟨answer, rfl, ?_⟩
      rintro l ⟨⟩
      exact hanswer

/-- The last answer says of a list that it has room, and which slot is its next one. -/
def Offered (log : List Inquiry) (list : ListId) (index : UInt64) : Prop :=
  ∃ front l, log = front ++ [⟨.findList list, .ok (some l)⟩] ∧ l.hasRoom = true ∧ index = l.used

/-- The next slot of a list is what the store says of the list. -/
theorem says_nextIndex (front : List Inquiry) {list : ListId}
    {result : Except ServiceError (Option UInt64)} (h : (nextIndex list).run.Says log result) :
    Looking 1 log ∧ ∀ index, result = .ok (some index) → Offered (front ++ log) list index := by
  rcases says_bind_iff.mp h with ⟨err, hget, rfl⟩ | ⟨l, asked, rest, rfl, hget, hpure⟩
  · obtain ⟨answer, rfl, -⟩ := says_getList hget
    exact ⟨Looking.single trivial, by rintro index ⟨⟩⟩
  · obtain ⟨answer, rfl, hanswer⟩ := says_getList hget
    obtain ⟨rfl, rfl⟩ := says_pure_iff.mp hpure
    refine ⟨Looking.single trivial, ?_⟩
    intro index hindex
    split at hindex
    · rename_i hroom
      cases hindex
      obtain rfl := hanswer l rfl
      exact ⟨front, l, rfl, hroom, rfl⟩
    · cases hindex

/-- A service that takes the next slot of a list comes to it as the last answer says, or it goes
on. -/
theorem says_offer (front : List Inquiry) {list : ListId}
    {f : Option UInt64 → Service (Option (ListId × UInt64))}
    (hf : ∀ index, f (some index) = pure (some (list, index)))
    {result : Except ServiceError (Option (ListId × UInt64))}
    (h : (nextIndex list >>= f).run.Says log result) :
    (Looking 1 log ∧
      ∀ slot, result = .ok (some slot) → Offered (front ++ log) slot.1 slot.2) ∨
    ∃ asked rest, log = asked ++ rest ∧ Looking 1 asked ∧ (f none).run.Says rest result := by
  rcases says_bind_iff.mp h with ⟨err, hnext, rfl⟩ | ⟨next, asked, rest, rfl, hnext, hrest⟩
  · exact .inl ⟨(says_nextIndex front hnext).1, by rintro slot ⟨⟩⟩
  · obtain ⟨hlook, hoffer⟩ := says_nextIndex front hnext
    cases next with
    | none => exact .inr ⟨asked, rest, rfl, hlook, hrest⟩
    | some index =>
      rw [hf] at hrest
      obtain ⟨rfl, rfl⟩ := says_pure_iff.mp hrest
      rw [List.append_nil]
      refine .inl ⟨hlook, ?_⟩
      rintro slot ⟨⟩
      exact hoffer index rfl

/-- The requests that choose a list: the one for a list of the group that has room, then at most
`n` that read lists or make them. -/
def Chooses (a : Assignment) (n : Nat) (log : List Inquiry) : Prop :=
  ∃ answer rest, log = ⟨.findAvailable a.issuer a.purpose a.width, answer⟩ :: rest ∧ Looking n rest

theorem Chooses.append {n m : Nat} {front back : List Inquiry} (hfront : Chooses a n front)
    (hback : Looking m back) : Chooses a (n + m) (front ++ back) := by
  obtain ⟨answer, rest, rfl, hrest⟩ := hfront
  exact ⟨answer, rest ++ back, rfl, hrest.append hback⟩

theorem Chooses.mono {n m : Nat} (h : Chooses a n log) (hle : n ≤ m) : Chooses a m log := by
  obtain ⟨answer, rest, rfl, hrest⟩ := h
  exact ⟨answer, rest, rfl, hrest.mono hle⟩

theorem Chooses.noneMade {n : Nat} (h : Chooses a n log) : NoneMade log := by
  obtain ⟨answer, rest, rfl, hrest⟩ := h
  exact noneMade_cons.mpr ⟨rfl, hrest.noneMade⟩

theorem says_findOrCreate {result : Except ServiceError StatusList}
    (h : (findOrCreate c a.issuer a.purpose a.width).run.Says log result) : Chooses a 1 log := by
  rcases says_ask_bind_iff.mp h with ⟨answer, err, rfl, -, -⟩ |
    ⟨answer, found, rest, rfl, -, hrest⟩
  · exact ⟨answer, [], rfl, Looking.nil.mono (Nat.zero_le 1)⟩
  · cases found with
    | none => exact ⟨answer, rest, rfl, says_createList hrest⟩
    | some l =>
      obtain ⟨rfl, -⟩ := says_pure_iff.mp hrest
      exact ⟨answer, [], rfl, Looking.nil.mono (Nat.zero_le 1)⟩

/-- A slot is chosen as the last answer says. -/
theorem says_chooseSlot {result : Except ServiceError (Option (ListId × UInt64))}
    (h : (chooseSlot c a).run.Says log result) :
    Chooses a 4 log ∧ ∀ slot, result = .ok (some slot) → Offered log slot.1 slot.2 := by
  rcases says_bind_iff.mp h with ⟨err, hlist, rfl⟩ | ⟨l, front, rest, rfl, hlist, h₁⟩
  · exact ⟨(says_findOrCreate hlist).mono (by decide), by rintro slot ⟨⟩⟩
  have hchosen := says_findOrCreate hlist
  rcases says_offer front (fun _ => rfl) h₁ with ⟨hlook, hoffer⟩ | ⟨asked, rest, rfl, hlook, h₂⟩
  · exact ⟨(hchosen.append hlook).mono (by decide), hoffer⟩
  -- the list has filled up, so that another one is made
  have hchosen := hchosen.append hlook
  rw [← List.append_assoc]
  rcases says_bind_iff.mp h₂ with ⟨err, hmake, rfl⟩ | ⟨l', made, rest, rfl, hmake, h₃⟩
  · exact ⟨(hchosen.append (says_createList hmake)).mono (by decide), by rintro slot ⟨⟩⟩
  have hchosen := hchosen.append (says_createList hmake)
  rw [← List.append_assoc]
  rcases says_offer (front ++ asked ++ made) (fun _ => rfl) h₃ with
    ⟨hlook, hoffer⟩ | ⟨asked', rest, rfl, hlook, h₄⟩
  · exact ⟨hchosen.append hlook, hoffer⟩
  · obtain ⟨rfl, rfl⟩ := says_pure_iff.mp h₄
    rw [List.append_nil]
    exact ⟨hchosen.append hlook, by rintro slot ⟨⟩⟩

/-! ## Attempts -/

/-- The requests with which an attempt submits an entry: none, or one for the slot that was offered
in answer to the request before it, after which the entry of the credential may be looked for. -/
def Submits (a : Assignment) (choosing submission : List Inquiry) : Prop :=
  submission = [] ∨ ∃ r answer rest, submission = ⟨.createEntry r, answer⟩ :: rest ∧
    r.credential = a.credential ∧ r.purpose = a.purpose ∧ r.width = a.width ∧
    Offered choosing r.list r.index ∧
    (rest = [] ∨ ∃ found, rest = [⟨.findEntry a.credential a.purpose, found⟩])

/-- The requests of one attempt: a slot is chosen, and an entry is submitted for it. -/
def IsAttempt (a : Assignment) (part : List Inquiry) : Prop :=
  ∃ choosing submission, part = choosing ++ submission ∧ Chooses a 4 choosing ∧
    Submits a choosing submission

/-- How a log ends that comes to an entry: with its finding or with its making, and before that, or
if it comes to none, no entry is made. -/
inductive Ends (credential : CredentialId) (purpose : Purpose) :
    List Inquiry → Option StatusEntry → Prop
  | without {log : List Inquiry} (noneMade : NoneMade log) : Ends credential purpose log none
  | found {front : List Inquiry} {e : StatusEntry} (noneMade : NoneMade front) :
    Ends credential purpose (front ++ [⟨.findEntry credential purpose, .ok (some e)⟩]) (some e)
  | made {front : List Inquiry} {r : EntryRequest} {e : StatusEntry} (noneMade : NoneMade front) :
    Ends credential purpose (front ++ [⟨.createEntry r, .ok e⟩]) (some e)

theorem Ends.prepend {credential : CredentialId} {purpose : Purpose} {front : List Inquiry}
    {e : Option StatusEntry} (hfront : NoneMade front) (h : Ends credential purpose log e) :
    Ends credential purpose (front ++ log) e := by
  cases h with
  | without hnone => exact .without (noneMade_append.mpr ⟨hfront, hnone⟩)
  | found hnone =>
    rw [← List.append_assoc]
    exact .found (noneMade_append.mpr ⟨hfront, hnone⟩)
  | made hnone =>
    rw [← List.append_assoc]
    exact .made (noneMade_append.mpr ⟨hfront, hnone⟩)

/-- The entry of a credential is found, or nothing comes of the request. -/
theorem says_findEntry {credential : CredentialId} {purpose : Purpose}
    {result : Except ServiceError (Option StatusEntry)}
    (h : (findEntry credential purpose).run.Says log result) :
    (∃ found, log = [⟨.findEntry credential purpose, found⟩]) ∧
      Ends credential purpose log result.toOption.join := by
  unfold findEntry at h
  obtain ⟨answer, rfl, rfl⟩ := says_ask_iff.mp h
  refine ⟨⟨answer, rfl⟩, ?_⟩
  cases answer with
  | error err => exact .without (noneMade_cons.mpr ⟨rfl, noneMade_nil⟩)
  | ok found =>
    cases found with
    | none => exact .without (noneMade_cons.mpr ⟨rfl, noneMade_nil⟩)
    | some e =>
      show Ends credential purpose ([] ++ [⟨.findEntry credential purpose, .ok (some e)⟩]) (some e)
      exact .found noneMade_nil

theorem says_attempt {result : Except ServiceError (Option StatusEntry)}
    (h : (attempt c a).run.Says part result) :
    IsAttempt a part ∧ Ends a.credential a.purpose part result.toOption.join := by
  rcases says_bind_iff.mp h with ⟨err, hchoose, rfl⟩ | ⟨choice, choosing, rest, rfl, hchoose, h'⟩
  · have hchosen := (says_chooseSlot hchoose).1
    exact ⟨⟨part, [], (List.append_nil part).symm, hchosen, .inl rfl⟩, .without hchosen.noneMade⟩
  obtain ⟨hchosen, hoffer⟩ := says_chooseSlot hchoose
  cases choice with
  | none =>
    obtain ⟨rfl, rfl⟩ := says_pure_iff.mp h'
    rw [List.append_nil]
    exact ⟨⟨choosing, [], (List.append_nil choosing).symm, hchosen, .inl rfl⟩,
      .without hchosen.noneMade⟩
  | some slot =>
    obtain ⟨list, index⟩ := slot
    obtain ⟨answer, back, rfl, hback⟩ := says_lift_bind_iff.mp h'
    have hattempt : (back = [] ∨ ∃ found, back = [⟨.findEntry a.credential a.purpose, found⟩]) →
        IsAttempt a (choosing ++ ⟨.createEntry (entryRequest a list index), answer⟩ :: back) :=
      fun hback => ⟨choosing, _, rfl, hchosen,
        .inr ⟨entryRequest a list index, answer, back, rfl, rfl, rfl, rfl, hoffer _ rfl, hback⟩⟩
    cases answer with
    | ok e =>
      obtain ⟨rfl, rfl⟩ := says_pure_iff.mp hback
      exact ⟨hattempt (.inl rfl), .made hchosen.noneMade⟩
    | error err =>
      have hnone :
          NoneMade (choosing ++ [⟨.createEntry (entryRequest a list index), .error err⟩]) :=
        noneMade_append.mpr ⟨hchosen.noneMade, noneMade_cons.mpr ⟨rfl, noneMade_nil⟩⟩
      split at hback
      · rename_i heq
        cases heq
      · -- the credential has an entry by now
        obtain ⟨hfound, hends⟩ := says_findEntry hback
        refine ⟨hattempt (.inr hfound), ?_⟩
        rw [List.append_cons]
        exact hends.prepend hnone
      · split at hback
        · obtain ⟨rfl, rfl⟩ := says_pure_iff.mp hback
          exact ⟨hattempt (.inl rfl), .without hnone⟩
        · obtain ⟨rfl, rfl⟩ := says_throw_iff.mp hback
          exact ⟨hattempt (.inl rfl), .without hnone⟩

/-- A log that comes to no entry makes none. -/
theorem Ends.noneMade {credential : CredentialId} {purpose : Purpose}
    (h : Ends credential purpose log none) : NoneMade log := by
  cases h with
  | without hnone => exact hnone

theorem says_attempts {n : Nat} {result : Except ServiceError StatusEntry}
    (h : (attempts c a n).run.Says log result) :
    (∃ parts, log = List.flatten parts ∧ parts.length ≤ n ∧ ∀ part ∈ parts, IsAttempt a part) ∧
      Ends a.credential a.purpose log result.toOption := by
  induction n generalizing log with
  | zero =>
    obtain ⟨rfl, rfl⟩ := says_throw_iff.mp h
    exact ⟨⟨[], rfl, Nat.le_refl 0, by simp⟩, .without noneMade_nil⟩
  | succ n ih =>
    rcases says_bind_iff.mp h with ⟨err, hattempt, rfl⟩ | ⟨found, part, rest, rfl, hattempt, h'⟩
    · obtain ⟨hpart, hends⟩ := says_attempt hattempt
      exact ⟨⟨[log], by simp, by simp, by simpa using hpart⟩, hends⟩
    · obtain ⟨hpart, hends⟩ := says_attempt hattempt
      cases found with
      | some e =>
        obtain ⟨rfl, rfl⟩ := says_pure_iff.mp h'
        rw [List.append_nil]
        exact ⟨⟨[part], by simp, by simp, by simpa using hpart⟩, hends⟩
      | none =>
        -- the attempt is lost, and made no entry
        obtain ⟨⟨parts, rfl, hlength, hparts⟩, hrest⟩ := ih h'
        refine ⟨⟨part :: parts, rfl, Nat.succ_le_succ hlength, ?_⟩, hrest.prepend hends.noneMade⟩
        exact List.forall_mem_cons.mpr ⟨hpart, hparts⟩

/-! ## The assignment -/

section Assign

variable {credential : CredentialId} {issuer : IssuerId} {purpose : Purpose}
  {width : Option UInt32} {result : Except ServiceError StatusEntry}

/-- A log that comes to a result makes an entry only in its last request, and then this is the
result. -/
theorem Ends.made_last (h : Ends credential purpose log result.toOption)
    {front back : List Inquiry} {r : EntryRequest} {e : StatusEntry}
    (hlog : log = front ++ ⟨.createEntry r, .ok e⟩ :: back) : back = [] ∧ result = .ok e := by
  have hmade : (⟨.createEntry r, .ok e⟩ : Inquiry).made ≠ [] := List.cons_ne_nil e []
  generalize hentry : result.toOption = entry at h
  cases h with
  | without hnone => exact absurd (hnone _ (by rw [hlog]; simp)) hmade
  | found hnone => cases (hnone.eq_last hmade hlog).2
  | made hnone =>
    obtain ⟨rfl, hx⟩ := hnone.eq_last hmade hlog
    cases hx
    cases result with
    | error err => cases hentry
    | ok e' =>
      cases hentry
      exact ⟨rfl, rfl⟩

theorem Ends.made_le {e : Option StatusEntry} (h : Ends credential purpose log e) :
    (log.flatMap Inquiry.made).length ≤ 1 := by
  cases h with
  | without hnone => simp [hnone.flatMap_made]
  | found hnone => simp [hnone.flatMap_made, Inquiry.made, StoreRequest.made]
  | made hnone => simp [hnone.flatMap_made, Inquiry.made, StoreRequest.made]

/-- What an assignment asks of a store, and what it takes from it, in a log of requests with any
answers. -/
structure AssignmentOrderly (credential : CredentialId) (issuer : IssuerId) (purpose : Purpose)
    (width : Option UInt32) (log : List Inquiry) (result : Except ServiceError StatusEntry) :
    Prop where
  /-- For a width that there is not, nothing is asked. -/
  width_invalid : ∀ err, SlotWidth.ofRequest width = .error err →
    log = [] ∧ result = .error (.validation err)
  /-- Otherwise the entry of the credential is looked for, and then no more than 32 attempts are
  made to submit one, each for the slot that the store has just offered. -/
  attempts_le : ∀ w, SlotWidth.ofRequest width = .ok w →
    ∃ found parts, log = ⟨.findEntry credential purpose, found⟩ :: List.flatten parts ∧
      parts.length ≤ 32 ∧ ∀ part ∈ parts, IsAttempt ⟨credential, issuer, purpose, w⟩ part
  /-- Nothing is asked after an entry was made, and this entry is the result. -/
  made_last : ∀ front r e back, log = front ++ ⟨.createEntry r, .ok e⟩ :: back →
    back = [] ∧ result = .ok e
  /-- No more than one entry is made. -/
  made_le : (log.flatMap Inquiry.made).length ≤ 1
  /-- None is made by an assignment that ends with an error. -/
  error_noneMade : ∀ err, result = .error err → NoneMade log
  /-- An entry that is the result was found, and then none was made, or it was made. -/
  result_source : ∀ e, result = .ok e →
    (∃ front, log = front ++ [⟨.findEntry credential purpose, .ok (some e)⟩] ∧ NoneMade log) ∨
      ∃ front r, log = front ++ [⟨.createEntry r, .ok e⟩] ∧ NoneMade front

/-- What an assignment takes, by how its log ends. -/
theorem AssignmentOrderly.of_ends (hends : Ends credential purpose log result.toOption)
    (hinvalid : ∀ err, SlotWidth.ofRequest width = .error err →
      log = [] ∧ result = .error (.validation err))
    (hattempts : ∀ w, SlotWidth.ofRequest width = .ok w →
      ∃ found parts, log = ⟨.findEntry credential purpose, found⟩ :: List.flatten parts ∧
        parts.length ≤ 32 ∧ ∀ part ∈ parts, IsAttempt ⟨credential, issuer, purpose, w⟩ part) :
    AssignmentOrderly credential issuer purpose width log result := by
  refine ⟨hinvalid, hattempts, fun front r e back => hends.made_last, hends.made_le, ?_, ?_⟩
  · rintro err rfl
    exact Ends.noneMade hends
  · rintro e rfl
    cases hends with
    | found hnone =>
      exact .inl ⟨_, rfl, noneMade_append.mpr ⟨hnone, noneMade_cons.mpr ⟨rfl, noneMade_nil⟩⟩⟩
    | made hnone => exact .inr ⟨_, _, rfl, hnone⟩

theorem orderly_of_says (h : (assign c credential issuer purpose width).run.Says log result) :
    AssignmentOrderly credential issuer purpose width log result := by
  rcases says_check_bind_iff.mp h with ⟨err, hwidth, rfl, rfl⟩ | ⟨w, hwidth, h'⟩
  · refine .of_ends (.without noneMade_nil) ?_ ?_
    · intro err' hwidth'
      rw [hwidth] at hwidth'
      cases hwidth'
      exact ⟨rfl, rfl⟩
    · intro w hwidth'
      rw [hwidth] at hwidth'
      cases hwidth'
  have hparts : ∀ {log : List Inquiry},
      (∃ found parts, log = ⟨.findEntry credential purpose, found⟩ :: List.flatten parts ∧
        parts.length ≤ 32 ∧ ∀ part ∈ parts, IsAttempt ⟨credential, issuer, purpose, w⟩ part) →
      Ends credential purpose log result.toOption →
        AssignmentOrderly credential issuer purpose width log result := by
    intro log hlog hends
    refine .of_ends hends ?_ ?_
    · intro err hwidth'
      rw [hwidth] at hwidth'
      cases hwidth'
    · intro w' hwidth'
      rw [hwidth] at hwidth'
      cases hwidth'
      exact hlog
  rcases says_bind_iff.mp h' with ⟨err, hfind, rfl⟩ | ⟨found, front, rest, rfl, hfind, h''⟩
  · obtain ⟨⟨answer, rfl⟩, hends⟩ := says_findEntry hfind
    exact hparts ⟨answer, [], rfl, by decide, by simp⟩ hends
  · obtain ⟨⟨answer, rfl⟩, hends⟩ := says_findEntry hfind
    cases found with
    | some e =>
      obtain ⟨rfl, rfl⟩ := says_pure_iff.mp h''
      exact hparts ⟨answer, [], rfl, by decide, by simp⟩ hends
    | none =>
      obtain ⟨⟨parts, rfl, hlength, hall⟩, hrest⟩ := says_attempts h''
      exact hparts ⟨answer, parts, rfl, hlength, hall⟩ (hrest.prepend hends.noneMade)

/-- **An assignment comes to an end against any store, and whatever it is answered, it takes no
more than the entry that it returns.** -/
theorem assign_orderly (c : Config) (credential : CredentialId) (issuer : IssuerId)
    (purpose : Purpose) (width : Option UInt32) :
    (∀ (σ : Type) (answer : σ → (q : StoreRequest) → q.Answer × σ) (now : Timestamp) (s : σ),
      ∃ log, (assign c credential issuer purpose width).run.Says log
        ((assign c credential issuer purpose width).run.run answer now s).1) ∧
    ∀ log result, (assign c credential issuer purpose width).run.Says log result →
      AssignmentOrderly credential issuer purpose width log result :=
  ⟨fun _ answer now s => Program.says_run answer now s _, fun _ _ => orderly_of_says⟩

end Assign

/-! ## A store that breaks off -/

namespace Sample

open Memory.Sample

/-- A store offers a list, says that it has filled up when the entry comes, and then cannot be
reached. -/
def inquiries : List Inquiry :=
  [⟨.findEntry credential .revocation, .ok none⟩,
    ⟨.findAvailable issuer .revocation .one, .ok (some list)⟩,
    ⟨.findList list.id, .ok (some list)⟩,
    ⟨.createEntry request, .error (.listFull list.id)⟩,
    ⟨.findAvailable issuer .revocation .one, .error (.database .noConnection)⟩]

theorem says_inquiries : (assign .default credential issuer .revocation none).run.Says inquiries
    (.error (.store (.database .noConnection))) := by
  unfold inquiries
  exact .ask (.findEntry credential .revocation) (.ok none)
    (.ask (.findAvailable issuer .revocation .one) (.ok (some list))
      (.ask (.findList list.id) (.ok (some list))
        (.ask (.createEntry request) (.error (.listFull list.id))
          (.ask (.findAvailable issuer .revocation .one) (.error (.database .noConnection))
            (.done _)))))

end Sample

/-- A store that breaks off gave no slot away. -/
theorem sample_assign_orderly : NoneMade Sample.inquiries :=
  ((assign_orderly .default Memory.Sample.credential Memory.Sample.issuer .revocation none).2 _ _
    Sample.says_inquiries).error_noneMade _ rfl

end Service

end StatusRegistry
