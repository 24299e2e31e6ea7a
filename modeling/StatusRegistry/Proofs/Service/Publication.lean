import StatusRegistry.Proofs.Document.Status
import StatusRegistry.Proofs.Service.Interleaving
import StatusRegistry.Proofs.Store.StatusChange
import StatusRegistry.Proofs.Verification

/-!
# From the issuer to the verifier

What is published of an entry that was assigned, at any time after, is what a verifier reads: the
claim of the entry points at the published list, and its slot there holds the code that the store
holds for the entry when the list is published.

* `Consistent.publishes`: the same in terms of one store;
* `published_status_verifies`: for every run of calls.
-/

set_option autoImplicit false

namespace StatusRegistry

/-- What a verifier makes of a claim and a list, as they are and after both were written to JSON and
read back. -/
structure Verifies (claim : StatusClaim) (list : ListCredential) (e : StatusEntry)
    (status : UInt8) : Prop where
  url_eq : list.id = some claim.listUrl
  check_eq : ∀ now, (∀ t, list.validFrom = some t → t ≤ now) →
    (∀ t, list.validUntil = some t → now < t) →
      checkStatus claim list now = .ok ⟨e.purpose, e.index, status, e.purpose.label status⟩
  claim_read : StatusClaim.ofJson claim.toJson = .ok claim
  list_read : ListCredential.ofJson (ListCredential.toJson list) = .ok list

/-- What the service publishes of a list, from a store. -/
def Memory.publishes (m : Memory) (c : Config) (list : ListId) (issuer : Issuer) (stamp : Stamp) :
    Except ServiceError (Option ListCredential) × Memory :=
  (Service.listCredential c list issuer).run.run (fun m q => m.answer stamp q) stamp.now m

theorem Program.run_ask {α σ : Type} (answer : σ → (q : StoreRequest) → q.Answer × σ)
    {now : Timestamp} {s s' : σ} {q : StoreRequest} {a : q.Answer} (h : answer s q = (a, s'))
    (next : q.Answer → Program α) :
    (Program.ask q next).run answer now s = (next a).run answer now s' := by
  rw [Program.run, h]

/-- The claim of an entry says nothing that changes. -/
theorem StatusEntry.Same.claim_eq {e e' : StatusEntry} (h : e.Same e') (c : Config) :
    Service.claim c e' = Service.claim c e := by
  unfold Service.claim
  rw [h.list_eq, h.index_eq, h.purpose_eq, h.width_eq]

namespace Memory

theorem publishes_of_stored {m : Memory} {id : ListId} {l : StatusList}
    (hl : m.lists[id]? = some l) (c : Config) (issuer : Issuer) (stamp : Stamp) :
    m.publishes c id issuer stamp = (.ok (some (l.credential issuer (c.listUrl id))), m) := by
  have hanswer : m.answer stamp (.findList id) = (.ok (some l), m) :=
    Prod.ext (congrArg Except.ok hl) rfl
  unfold publishes
  exact Program.run_ask (fun (m : Memory) q => m.answer stamp q) hanswer _

/-- **What a store publishes of an entry is what it holds.** -/
theorem Consistent.publishes {m : Memory} (h : m.Consistent) {e stored : StatusEntry}
    (hstored : m.StoresEntry stored) (hsame : e.Same stored) (c : Config) (issuer : Issuer)
    (stamp : Stamp) :
    ∃ list, m.publishes c e.list issuer stamp = (.ok (some list), m) ∧
      Verifies (Service.claim c e) list e stored.status := by
  obtain ⟨l, hl, hlStored, hlist, hpurpose, hwidth⟩ := h.list_of_entry hstored
  have hsound := h.sound hlStored
  obtain ⟨data, hdata⟩ := hsound.readable
  have hslot := (h.accounted hlStored).status_eq hstored hlist hdata
  have hindex := h.index_lt_capacity hstored hlStored hlist
  rw [hsame.index_eq] at hslot hindex
  rw [hsame.list_eq] at hl
  refine ⟨l.credential issuer (c.listUrl e.list), publishes_of_stored hl c issuer stamp, rfl, ?_,
    StatusClaim.undoes.read_write _, ListCredential.ofJson_toJson _ (fun hnull => nomatch hnull)⟩
  intro now hfrom huntil
  apply checkStatus_credential hsound (hpurpose.trans hsame.purpose_eq)
    (hwidth.trans hsame.width_eq) hindex hdata hslot (hfrom _ rfl)
  intro t ht
  apply huntil
  show l.validUntil.map Timestamp.instant = some t.instant
  rw [ht]
  rfl

end Memory

namespace System

/-- What steps lead to, the operations of the store lead to. -/
theorem Follows.leads {s s' : System} (h : s.Follows s') : s.memory.Leads s'.memory := by
  induction h with
  | refl => exact .refl
  | step _ hstep ih =>
    cases hstep with
    | start c call => exact ih
    | operate stamp turn fresh => exact .step stamp _ ih fresh
    | time now turn => exact ih

/-- A record of the entry that a call has ended with, at some time after. -/
def RecordOf (s : System) (e record : StatusEntry) : Prop :=
  record = e ∨ s.memory.entries[e.id]? = some record

/-- **A verifier reads what the issuer wrote.**  Take an entry that an assignment has ended with,
its claim at any time after, made from any record of the entry, and its list as it is published at
any time after: the list is published, the claim points at it, and as long as it is valid the
verifier reads the code that the store holds for the entry when the list is published. -/
theorem published_status_verifies {s s₁ s₂ : System} (hs : s.Run) (h₁ : s.Follows s₁)
    (h₂ : s.Follows s₂) {i : Nat} {credential : CredentialId} {issuer : IssuerId}
    {purpose : Purpose} {width : Option UInt32} {e record : StatusEntry}
    (hreturns : s.Returns i (.assign credential issuer purpose width) (.ok e))
    (hrecord : s₁.RecordOf e record) (c : Config) (publisher : Issuer) (stamp : Stamp) :
    ∃ list stored, s₂.memory.publishes c e.list publisher stamp = (.ok (some list), s₂.memory) ∧
      s₂.memory.entries[e.id]? = some stored ∧
      Verifies (Service.claim c record) list e stored.status := by
  have h := hs.sound
  have hconsistent := h.reachable.consistent
  obtain ⟨-, stored, hstored, hsame, -, -⟩ := h.settled hreturns
  obtain ⟨stored₁, hstored₁, hsame₁⟩ := (h₁.leads.extends hconsistent).entry hstored
  obtain ⟨stored₂, hstored₂, hsame₂⟩ := (h₂.leads.extends hconsistent).entry hstored
  obtain ⟨list, hpublishes, hverifies⟩ := (h₂.leads.consistent hconsistent).publishes hstored₂
    (hsame.trans hsame₂) c publisher stamp
  refine ⟨list, stored₂, hpublishes, ?_, ?_⟩
  · rw [← (hsame.trans hsame₂).id_eq]
    exact hstored₂
  · have hclaim : Service.claim c record = Service.claim c e := by
      rcases hrecord with rfl | hrecord
      · rfl
      · rw [← (hsame.trans hsame₁).id_eq, hstored₁] at hrecord
        cases hrecord
        exact (hsame.trans hsame₁).claim_eq c
    rw [hclaim]
    exact hverifies

/-- The change of the status of the sample credential to code 1. -/
def Sample.update : StatusUpdate := ⟨Memory.Sample.credential, 1, .revocation, none⟩

/-- After the sample credential was revoked, a verifier reads that it is. -/
theorem sample_published_status_verifies :
    ∃ s list, Sample.system.Follows s ∧
      s.memory.publishes .default Memory.Sample.entry.list (.id "did:example:issuer")
        (Memory.Sample.stamp 5) = (.ok (some list), s.memory) ∧
      Verifies (Service.claim .default Memory.Sample.entry) list Memory.Sample.entry 1 := by
  have hfollows : Sample.system.Follows _ := .step
    (.step .refl (.start .default (.updateStatus Sample.update)))
    (.operate (i := 2) (q := .updateStatus Sample.update) (Memory.Sample.stamp 4) rfl trivial)
  obtain ⟨e', l', m', heq, hwritten⟩ := Memory.updateStatus_written
    Memory.Sample.reachable.consistent (u := Sample.update) Memory.Sample.assigned (by decide)
    (Memory.Sample.stamp 4).now
  obtain ⟨list, stored, hpublishes, hstored, hverifies⟩ := published_status_verifies Sample.run
    .refl hfollows (i := 0) rfl (.inl rfl) .default (.id "did:example:issuer")
    (Memory.Sample.stamp 5)
  have hone : stored.status = 1 := by
    have hm : (Memory.Sample.store.updateStatus Sample.update
        (Memory.Sample.stamp 4).now).2.entries[Memory.Sample.entry.id]? = some stored := hstored
    have hid : e'.id = Memory.Sample.entry.id := by rw [hwritten.entry_eq]
    have he' : m'.entries[e'.id]? = some e' := hwritten.entry_stored
    rw [heq, ← hid, he'] at hm
    rw [← Option.some.inj hm, ← UInt8.toNat_inj, hwritten.status_eq]
    rfl
  rw [hone] at hverifies
  exact ⟨_, list, hfollows, hpublishes, hverifies⟩

end System

end StatusRegistry
