import StatusRegistry.Proofs.Document.Records

/-!
# Documents in normal form

A document that is accepted need not be in the form in which this library writes documents: it may
name members that no record has, leave optional members out or give them as null, spell a UUID or a
date in another way, or give a record as an array.  Whatever is read from it, what is written for
that reads back as the same.

* `Credential.proof_ne_null`: a proof that was read is not null;
* `documents_normalise`: what is read from each kind of document is read again from what is written.
-/

set_option autoImplicit false

namespace StatusRegistry

/-- Whatever is read from a document is read again from the document that is written for it. -/
def Reader.Normalises {α : Type} (read : Reader α) (write : α → Json) : Prop :=
  ∀ j v, read j = .ok v → read (write v) = .ok v

theorem Reader.Undoes.normalises {α : Type} {read : Reader α} {write : α → Json}
    (h : Undoes read write) : Normalises read write :=
  fun _ v _ => h.read_write v

/-! ## Proofs of credentials -/

theorem Reader.optional_any_ne_null {j : Json} {a : Option Json}
    (h : optional any j = .ok a) : a ≠ some .null := by
  rintro rfl
  cases j <;> cases h

theorem Json.Members.optional_any_ne_null {ms : Json.Members} {name : String} {a : Option Json}
    (h : ms.optional name Reader.any = .ok a) : a ≠ some .null := by
  unfold optional at h
  split at h
  · exact Reader.optional_any_ne_null h
  · cases h
    simp

theorem Shape.optional_any_ne_null {items : List Json} {position : Nat} {a : Option Json}
    (h : Shape.optional items position Reader.any = .ok a) : a ≠ some .null := by
  unfold Shape.optional at h
  split at h
  · exact Reader.optional_any_ne_null h
  · cases h
    simp

namespace Credential

variable {Subject : Type} {read : Reader Subject} {c : Credential Subject}

theorem proof_of_members {ms : Json.Members} (h : ofMembers read ms = .ok c) :
    ms.optional "proof" Reader.any = .ok c.proof := by
  simp only [ofMembers, bind_eq_ok_iff] at h
  obtain ⟨_, -, _, -, _, -, _, -, proof, hproof, _, -, _, -, _, -, _, -, _, -, _, -, _, -, hc⟩ := h
  cases hc
  exact hproof

theorem proof_of_items {items : List Json} (h : ofItems read items = .ok c) :
    Shape.optional items 7 Reader.any = .ok c.proof := by
  simp only [ofItems, bind_eq_ok_iff] at h
  obtain ⟨_, -, _, -, _, -, _, -, _, -, _, -, _, -, proof, hproof, _, -, hc⟩ := h
  cases hc
  exact hproof

/-- A proof that was read is not null: a null stands for no proof. -/
theorem proof_ne_null {j : Json} (h : ofJson read j = .ok c) : c.proof ≠ some .null := by
  cases j with
  | object ms => exact Json.Members.optional_any_ne_null (proof_of_members h)
  | array items => exact Shape.optional_any_ne_null (proof_of_items h)
  | _ => cases h

/-- A credential is normalised if its subject is read back as it is written. -/
theorem normalises {write : Subject → Json} (h : ∀ s, read (write s) = .ok s) :
    Reader.Normalises (ofJson read) (toJson write) :=
  fun _ c hread => ofJson_toJson h c (proof_ne_null hread)

end Credential

/-! ## All documents -/

/-- **What is read from a document is read again from the document written for it**, for every kind
of document. -/
theorem documents_normalise :
    Reader.Normalises (Credential.ofJson Reader.any) (Credential.toJson id) ∧
      Reader.Normalises ListCredential.ofJson ListCredential.toJson ∧
      Reader.Normalises StatusClaim.ofJson StatusClaim.toJson ∧
      Reader.Normalises ListRequest.ofJson ListRequest.toJson ∧
      Reader.Normalises StatusList.ofJson StatusList.toJson ∧
      Reader.Normalises EntryRequest.ofJson EntryRequest.toJson ∧
      Reader.Normalises StatusEntry.ofJson StatusEntry.toJson ∧
      Reader.Normalises StatusUpdate.ofJson StatusUpdate.toJson ∧
      Reader.Normalises UpdateResult.ofJson UpdateResult.toJson :=
  ⟨Credential.normalises fun _ => rfl, Credential.normalises ListSubject.undoes.read_write,
    StatusClaim.undoes.normalises, ListRequest.undoes.normalises, StatusList.undoes.normalises,
    EntryRequest.undoes.normalises, StatusEntry.undoes.normalises, StatusUpdate.undoes.normalises,
    UpdateResult.undoes.normalises⟩

/-- A request in array form that spells its list in capitals. -/
def sampleRequest : Json :=
  .array [.string "urn:credential:7", .string "URN:UUID:00000000-0000-4000-8000-0000000000AB",
    .int 5, .int 2, .string "suspension"]

/-- An outcome with a null and with a member that no outcome has. -/
def sampleOutcome : Json :=
  .object [("note", .int 1), ("statusEntry", .null), ("success", .bool true)]

theorem sample_documents_normalise :
    (∃ r, EntryRequest.ofJson sampleRequest = .ok r ∧ EntryRequest.ofJson r.toJson = .ok r) ∧
      ∃ r, UpdateResult.ofJson sampleOutcome = .ok r ∧ UpdateResult.ofJson r.toJson = .ok r := by
  obtain ⟨-, -, -, -, -, hentry, -, -, hresult⟩ := documents_normalise
  have hrequest : EntryRequest.ofJson sampleRequest =
      .ok ⟨⟨"urn:credential:7", by decide⟩, ⟨⟨0x000000000000400080000000000000AB⟩⟩, 5, .two,
        .suspension⟩ := rfl
  have houtcome : UpdateResult.ofJson sampleOutcome = .ok ⟨true, none, none⟩ := rfl
  exact ⟨⟨_, hrequest, hentry _ _ hrequest⟩, ⟨_, houtcome, hresult _ _ houtcome⟩⟩

end StatusRegistry
