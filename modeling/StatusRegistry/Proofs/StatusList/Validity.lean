import StatusRegistry.Proofs.Instant
import StatusRegistry.Proofs.StatusList.Runs
import StatusRegistry.Proofs.Verification
import StatusRegistry.Proofs.Verification.Order

/-!
# How long a published list is valid

A list keeps the time at which it was made and has a lifetime of at most a century, so the end of
its validity is an instant unless it was made in the last years of the calendar.  Its document shows
both times, and a verifier takes it from the first up to the second.

* `Instant.addMillis?_whole_eq`: whole seconds and a lifetime;
* `MadeAt`: what every call keeps of the making of a list (`MadeAt.edit`, `Run.madeAt`);
* `notYetValid_iff`, `expired_iff`: when a verifier says that a published list is not valid;
* `validity_window`: how long a list is valid after every run of calls.
-/

set_option autoImplicit false

namespace StatusRegistry

/-! ## Whole seconds -/

namespace Instant

/-- An instant is a number of seconds after another. -/
def After (t : Instant) (seconds : Nat) (u : Instant) : Prop :=
  u.seconds = t.seconds + seconds ∧ u.nanos = t.nanos

theorem After.unique {t u v : Instant} {seconds : Nat} (hu : t.After seconds u)
    (hv : t.After seconds v) : u = v := by
  rw [← rank_inj, rank, rank, hu.1, hu.2, hv.1, hv.2]

/-- What is added to a whole second beside whole seconds is dropped with the fraction. -/
theorem addMillis?_whole_eq {t : Instant} (hwhole : t.nanos = 0) {millis : Nat}
    (hfits : t.seconds + (millis / 1000 : Nat) ≤ greatestSecond) :
    ∃ sum, t.addMillis? millis = some sum ∧ t.After (millis / 1000) sum.wholeSecond := by
  have hlow := t.least_le
  have hfraction : millis % 1000 * 1000000 < 1000000000 := by omega
  refine ⟨⟨t.seconds + (millis / 1000 : Nat), millis % 1000 * 1000000, by omega, hfits,
    .inl hfraction⟩, ?_, rfl, hwhole.symm⟩
  unfold addMillis?
  simp only [hwhole, Nat.zero_add]
  rw [if_pos (by decide)]
  refine of?_eq ?_ (Nat.mod_eq_of_lt hfraction)
  show t.seconds + (millis : Int) / 1000 + (millis % 1000 * 1000000 : Nat) / 1000000000 =
    t.seconds + (millis / 1000 : Nat)
  omega

/-- Up to the year 262000 there is more than a century left. -/
theorem seconds_lt_of_year {t : Instant} (h : t.date.year ≤ 262000) :
    t.seconds < 8205785827200 := by
  have hnext : (⟨262001, 1, 1⟩ : Date).days = 94974373 := by decide
  have hover : ¬ 262001 ≤ t.date.year := by omega
  unfold date at hover
  rw [Date.le_year_ofDays_iff, hnext] at hover
  omega

end Instant

namespace StatusList

/-! ## What every call keeps -/

/-- A list was made at a time, and has a lifetime that a list may have. -/
structure MadeAt (t : Timestamp) (l : StatusList) : Prop where
  createdAt_eq : l.createdAt = t
  ttl_le : ∀ ttl, l.ttl = some ttl → ttl ≤ maxTtl

namespace MadeAt

variable {t : Timestamp} {l : StatusList}

theorem create {r : ListRequest} {id : ListId} (h : StatusList.create r id t = .ok l) :
    MadeAt t l := by
  obtain ⟨p, hp, rfl⟩ := create_eq_ok h
  refine ⟨rfl, fun ttl httl => ?_⟩
  have hplan := (plan_eq_ok hp).2.2
  rw [show p.ttl = some ttl from httl] at hplan
  exact planTtl_eq_ok hplan

/-- **No call moves the making of a list or gives it a lifetime that is too long.** -/
theorem edit (h : MadeAt t l) (now : Timestamp) (call : Edit) : MadeAt t (l.edit now call).2 := by
  cases call with
  | setStatus index status =>
    cases hset : l.setStatus index status now with
    | error err =>
      rw [edit_setStatus_error hset]
      exact h
    | ok found =>
      obtain ⟨code, l'⟩ := found
      obtain ⟨-, data, data', -, -, rfl⟩ := setStatus_eq_ok hset
      rw [edit_setStatus_ok hset]
      exact ⟨h.createdAt_eq, h.ttl_le⟩
  | takeSlot =>
    by_cases hroom : l.used < l.capacity
    · rw [edit_takeSlot hroom]
      exact ⟨h.createdAt_eq, h.ttl_le⟩
    · rw [edit_takeSlot_full hroom]
      exact h
  | setTtl ttl =>
    cases hplan : planTtl ttl with
    | error err =>
      rw [edit_setTtl_error hplan]
      exact h
    | ok planned =>
      rw [edit_setTtl_ok hplan]
      refine ⟨h.createdAt_eq, fun ttl httl => ?_⟩
      rw [show planned = some ttl from httl] at hplan
      exact planTtl_eq_ok hplan
  | setMetadata metadata => exact ⟨h.createdAt_eq, h.ttl_le⟩

/-- The end of a lifetime is as many seconds after the making of the list as are full. -/
theorem validUntil_after (h : MadeAt t l) (hwhole : t.Whole) (hyear : t.instant.date.year ≤ 262000)
    {ttl : UInt64} (httl : l.ttl = some ttl) :
    ∃ sum, t.instant.addMillis? ttl.toNat = some sum ∧
      t.instant.After (ttl.toNat / 1000) sum.wholeSecond ∧
      l.validUntil = some (.ofInstant sum) := by
  have hmax : ttl.toNat ≤ 3153600000000 := UInt64.le_iff_toNat_le.mp (h.ttl_le ttl httl)
  have hseconds := Instant.seconds_lt_of_year hyear
  have hfits : t.instant.seconds + (ttl.toNat / 1000 : Nat) ≤ greatestSecond := by
    unfold greatestSecond
    omega
  obtain ⟨sum, hsum, hafter⟩ := Instant.addMillis?_whole_eq hwhole hfits
  refine ⟨sum, hsum, hafter, ?_⟩
  simp only [validUntil, httl, Timestamp.addMillis?, h.createdAt_eq, hsum, Option.map_some]

end MadeAt

/-- What ties a list to its making holds after every run. -/
theorem Run.madeAt {t : Timestamp} {l l' : StatusList} {log : List Event} (h : MadeAt t l)
    (run : l.Run log l') : MadeAt t l' := by
  induction run with
  | nil => exact h
  | step _ now call ih => exact ih.edit now call

/-! ## What a verifier makes of it -/

section Verifier

variable {claim : StatusClaim} {l : StatusList} {issuer : Issuer} {url : String} {now : Instant}

/-- A published list is told to be not valid yet only before its making. -/
theorem notYetValid_iff (hclaim : claim.type = StatusClaim.typeName) {first : Instant} :
    checkStatus claim (l.credential issuer url) now = .error (.notYetValid first) ↔
      now < l.createdAt.instant ∧ first = l.createdAt.instant := by
  have hfrom : (l.credential issuer url).validFrom = some l.createdAt.instant := rfl
  rw [checkStatus_validity_iff (checkTypes_credential hclaim) (.inl ⟨first, rfl⟩),
    checkValidity_decides]
  simp [FirstFailure, Check.started, Check.notEnded, hfrom]

/-- A published list is told to have expired only from the end of its validity on. -/
theorem expired_iff (hclaim : claim.type = StatusClaim.typeName) {last : Instant} :
    checkStatus claim (l.credential issuer url) now = .error (.expired last) ↔
      l.createdAt.instant ≤ now ∧ (l.credential issuer url).validUntil = some last ∧
        last ≤ now := by
  have hfrom : (l.credential issuer url).validFrom = some l.createdAt.instant := rfl
  rw [checkStatus_validity_iff (checkTypes_credential hclaim) (.inr ⟨last, rfl⟩),
    checkValidity_decides]
  simp [FirstFailure, Check.started, Check.notEnded, hfrom, Instant.not_lt]

/-- A verifier has nothing to say against the validity of a published list iff it is valid. -/
theorem no_validity_error_iff (hclaim : claim.type = StatusClaim.typeName) :
    ((∀ first, checkStatus claim (l.credential issuer url) now ≠ .error (.notYetValid first)) ∧
        ∀ last, checkStatus claim (l.credential issuer url) now ≠ .error (.expired last)) ↔
      l.createdAt.instant ≤ now ∧
        ∀ last, (l.credential issuer url).validUntil = some last → now < last := by
  constructor
  · rintro ⟨hyet, hexpired⟩
    have hstarted : l.createdAt.instant ≤ now := Instant.not_lt.mp fun hlt =>
      hyet _ ((notYetValid_iff hclaim).mpr ⟨hlt, rfl⟩)
    refine ⟨hstarted, fun last hlast => Decidable.not_not.mp fun hlt => ?_⟩
    exact hexpired _ ((expired_iff hclaim).mpr ⟨hstarted, hlast, Instant.not_lt.mp hlt⟩)
  · rintro ⟨hstarted, hgoing⟩
    refine ⟨fun first h => ?_, fun last h => ?_⟩
    · exact Instant.not_lt.mpr hstarted ((notYetValid_iff hclaim).mp h).1
    · obtain ⟨-, hlast, hle⟩ := (expired_iff hclaim).mp h
      exact Instant.not_lt.mpr hle (hgoing last hlast)

end Verifier

/-! ## The window -/

/-- How long the document of a list is valid, told by the making of the list and its lifetime. -/
structure Window (l : StatusList) (document : ListCredential) : Prop where
  /-- A lifetime is at most 100 years of 365 days. -/
  ttl_le : ∀ ttl, l.ttl = some ttl → ttl.toNat ≤ 3153600000000
  /-- It fits a signed word, and added to the making of the list it comes to an instant. -/
  no_overflow : ∀ ttl, l.ttl = some ttl → ttl.toNat < 2 ^ 63 ∧
    ∃ sum, l.createdAt.instant.addMillis? ttl.toNat = some sum
  /-- The document is valid from the making of the list. -/
  validFrom_eq : document.validFrom = some l.createdAt.instant
  /-- It has an end iff the list has a lifetime. -/
  validUntil_iff : (∃ last, document.validUntil = some last) ↔ ∃ ttl, l.ttl = some ttl
  /-- The end is the making of the list and the full seconds of the lifetime. -/
  validUntil_eq : ∀ ttl last, l.ttl = some ttl → document.validUntil = some last →
    l.createdAt.instant.After (ttl.toNat / 1000) last
  /-- A verifier takes the document as valid from the making of the list up to the end, which is
  not part of it. -/
  verifier_iff : ∀ claim : StatusClaim, claim.type = StatusClaim.typeName → ∀ now,
    ((∀ first, checkStatus claim document now ≠ .error (.notYetValid first)) ∧
        ∀ last, checkStatus claim document now ≠ .error (.expired last)) ↔
      l.createdAt.instant ≤ now ∧ (l.ttl = none ∨ ∃ ttl last, l.ttl = some ttl ∧
        l.createdAt.instant.After (ttl.toNat / 1000) last ∧ now < last)

/-- A list without a lifetime is published without an end. -/
theorem window_of_none {l : StatusList} (httl : l.ttl = none) (issuer : Issuer) (url : String) :
    l.Window (l.credential issuer url) := by
  have hend : (l.credential issuer url).validUntil = none := by
    simp only [credential, validUntil, httl, Option.map_none]
  refine ⟨?_, ?_, rfl, ?_, ?_, fun claim hclaim now => ?_⟩
  · simp [httl]
  · simp [httl]
  · simp [httl, hend]
  · simp [httl]
  · rw [no_validity_error_iff hclaim]
    simp [httl, hend]

/-- **The document of a list is valid for the lifetime of the list**, counted in full seconds. -/
theorem MadeAt.window {t : Timestamp} {l : StatusList} (h : MadeAt t l) (hwhole : t.Whole)
    (hyear : t.instant.date.year ≤ 262000) (issuer : Issuer) (url : String) :
    l.Window (l.credential issuer url) := by
  obtain rfl := h.createdAt_eq
  cases httl : l.ttl with
  | none => exact window_of_none httl issuer url
  | some ttl =>
    have hmax : ttl.toNat ≤ 3153600000000 := UInt64.le_iff_toNat_le.mp (h.ttl_le ttl httl)
    obtain ⟨sum, hsum, hafter, huntil⟩ := h.validUntil_after hwhole hyear httl
    have hend : (l.credential issuer url).validUntil = some sum.wholeSecond := by
      simp only [credential, huntil, Option.map_some]
      rfl
    refine ⟨?_, ?_, rfl, iff_of_true ⟨_, hend⟩ ⟨ttl, httl⟩, ?_, fun claim hclaim now => ?_⟩
    · rintro _ hsame
      cases httl.symm.trans hsame
      exact hmax
    · rintro _ hsame
      cases httl.symm.trans hsame
      exact ⟨by omega, sum, hsum⟩
    · rintro _ last hsame hlast
      cases httl.symm.trans hsame
      cases hend.symm.trans hlast
      exact hafter
    · rw [no_validity_error_iff hclaim]
      refine and_congr_right fun _ => ⟨fun hgoing => ?_, ?_⟩
      · exact .inr ⟨ttl, _, httl, hafter, hgoing _ hend⟩
      · rintro (hnone | ⟨_, last, hsame, hlast, hgoing⟩) found hfound
        · cases httl.symm.trans hnone
        · cases httl.symm.trans hsame
          cases hend.symm.trans hfound
          exact hafter.unique hlast ▸ hgoing

/-! ## Other lifetimes -/

/-- Another lifetime is stored if it is within the bounds, and else nothing is. -/
theorem edit_setTtl_cases (l : StatusList) (now : Timestamp) (ttl : Option Int64) :
    (∀ ms, ttl = some ms → 0 ≤ ms.toInt ∧ ms.toInt ≤ 3153600000000) ∧
        (∃ planned,
          l.edit now (.setTtl ttl) = (.ok (), { l with ttl := planned, updatedAt := now }) ∧
          (planned.map fun n => (n.toNat : Int)) = ttl.map Int64.toInt) ∨
      ¬ (∀ ms, ttl = some ms → 0 ≤ ms.toInt ∧ ms.toInt ≤ 3153600000000) ∧
        ∃ err, l.edit now (.setTtl ttl) = (.error err, l) := by
  by_cases hfit : ∀ ms, ttl = some ms → 0 ≤ ms.toInt ∧ ms.toInt ≤ 3153600000000
  · obtain ⟨planned, hplan, hkept⟩ := planTtl_ok hfit
    exact .inl ⟨hfit, planned, edit_setTtl_ok hplan now, hkept⟩
  · cases ttl with
    | none => exact absurd (fun ms h => nomatch h) hfit
    | some ms =>
      have hnot : ¬ (0 ≤ ms.toInt ∧ ms.toInt ≤ 3153600000000) := fun h =>
        hfit fun _ hms => Option.some.inj hms ▸ h
      exact .inr ⟨hfit, _, edit_setTtl_error (planTtl_error hnot) now⟩

/-- How a list takes another lifetime. -/
structure TakesTtl (l : StatusList) : Prop where
  /-- A lifetime is accepted iff it is from 0 to 100 years of 365 days. -/
  ok_iff : ∀ now ttl, (l.edit now (.setTtl ttl)).1 = .ok () ↔
    ∀ ms, ttl = some ms → 0 ≤ ms.toInt ∧ ms.toInt ≤ 3153600000000
  /-- A lifetime that is accepted is the one of the list from then on. -/
  ttl_eq : ∀ now ttl, (l.edit now (.setTtl ttl)).1 = .ok () →
    ((l.edit now (.setTtl ttl)).2.ttl.map fun n => (n.toNat : Int)) = ttl.map Int64.toInt
  /-- One that is refused leaves the list as it is. -/
  refused : ∀ now ttl err, (l.edit now (.setTtl ttl)).1 = .error err →
    (l.edit now (.setTtl ttl)).2 = l

theorem takesTtl (l : StatusList) : l.TakesTtl := by
  refine ⟨fun now ttl => ?_, fun now ttl => ?_, fun now ttl err => ?_⟩
  all_goals
    obtain ⟨hfit, planned, hedit, hkept⟩ | ⟨hnot, cause, hedit⟩ := edit_setTtl_cases l now ttl
    all_goals rw [hedit]
  · exact iff_of_true rfl hfit
  · exact iff_of_false (fun h => nomatch h) hnot
  · exact fun _ => hkept
  · exact fun h => nomatch h
  · exact fun h => nomatch h
  · exact fun _ => rfl

/-- **How long a list is valid.**  Take a list that was made up to the year 262000, after any calls.
Its lifetime is within the bounds, and its document is valid from the making of the list to the end
of its lifetime in full seconds, which is always an instant, or without an end if the list has no
lifetime.  A verifier keeps to exactly this time, and a lifetime that is refused changes nothing. -/
theorem validity_window {r : ListRequest} {id : ListId} {t : Instant} {l l' : StatusList}
    {log : List Event} (hcreate : create r id (.ofInstant t) = .ok l)
    (hyear : t.date.year ≤ 262000) (hrun : l.Run log l') (issuer : Issuer) (url : String) :
    l'.createdAt = .ofInstant t ∧ l'.Window (l'.credential issuer url) ∧ l'.TakesTtl := by
  have hmade := hrun.madeAt (.create hcreate)
  exact ⟨hmade.createdAt_eq, hmade.window rfl hyear issuer url, l'.takesTtl⟩

/-- The last second of the year 262000. -/
def Sample.lateSecond : Instant := ⟨8205785827199, 0, by decide, by decide, by decide⟩

/-- A list that is made in the last second of the year 262000 and is then given the longest lifetime
has an end, 100 years of 365 days later. -/
theorem sample_validity_window :
    ∃ l l' last, create Sample.request ⟨.nil⟩ (.ofInstant Sample.lateSecond) = .ok l ∧
      l.Run [⟨.setTtl (some 3153600000000), .ok ()⟩] l' ∧
      Sample.lateSecond.date.year = 262000 ∧ last.seconds = 8208939427199 ∧ last.nanos = 0 ∧
      (l'.credential (.id "did:example:university") "https://lists.example/1").validUntil =
        some last := by
  have hplan : Sample.request.plan = .ok Sample.plan := by decide
  have hyear : Sample.lateSecond.date.year = 262000 := by decide
  obtain ⟨l, hl⟩ : ∃ l, create Sample.request ⟨.nil⟩ (.ofInstant Sample.lateSecond) = .ok l := by
    unfold create
    rw [hplan]
    exact ⟨_, rfl⟩
  have hrun := (Run.nil (l := l)).step ⟨.epoch⟩ (.setTtl (some 3153600000000))
  have haccepted : (l.edit ⟨.epoch⟩ (.setTtl (some 3153600000000))).1 = .ok () :=
    (l.takesTtl.ok_iff _ _).mpr (by rintro _ ⟨⟩; decide)
  have httl : (l.edit ⟨.epoch⟩ (.setTtl (some 3153600000000))).2.ttl = some 3153600000000 := by
    rfl
  rw [haccepted] at hrun
  obtain ⟨hcreated, hwindow, -⟩ := validity_window hl (Int.le_of_eq hyear) hrun
    (.id "did:example:university") "https://lists.example/1"
  obtain ⟨last, hlast⟩ := hwindow.validUntil_iff.mpr ⟨_, httl⟩
  obtain ⟨hseconds, hnanos⟩ := hwindow.validUntil_eq _ _ httl hlast
  rw [hcreated] at hseconds hnanos
  exact ⟨l, _, last, hl, hrun, hyear, hseconds, hnanos, hlast⟩

end StatusList

end StatusRegistry
