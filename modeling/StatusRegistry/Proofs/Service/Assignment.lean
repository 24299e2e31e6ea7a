import StatusRegistry.Proofs.Service.Program
import StatusRegistry.Proofs.Store.Available
import StatusRegistry.Service.Assignment

/-!
# What an assignment keeps

One lemma for each service that takes part in giving a credential its slot, each true whatever
other callers do in between.

* `Memory.Offers`: a list of the group that an assignment asks for;
* `Memory.Records`: an entry of the credential and purpose of an assignment;
* `assign_keeps`: an entry is asked for at most once with success, in a list of the group, and
  the entry that is returned is that one, or one that others made for the credential.
-/

set_option autoImplicit false

namespace StatusRegistry

namespace Memory

open Service (Assignment)

/-- A list of the group of an assignment is stored under an identifier. -/
def Offers (m : Memory) (a : Assignment) (id : ListId) : Prop :=
  ∃ l, m.StoresList l ∧ l.id = id ∧ l.issuer = a.issuer ∧ l.purpose = a.purpose ∧
    l.width = a.width

/-- An entry is a record of the entry that is stored for the credential of an assignment. -/
def Records (m : Memory) (a : Assignment) (e : StatusEntry) : Prop :=
  e.credential = a.credential ∧ e.purpose = a.purpose ∧ ∃ stored, m.StoresEntry stored ∧
    e.Same stored

theorem Extends.offers {m m' : Memory} (h : m.Extends m') {a : Assignment} {id : ListId}
    (hoffers : m.Offers a id) : m'.Offers a id := by
  obtain ⟨l, hl, hid, hissuer, hpurpose, hwidth⟩ := hoffers
  obtain ⟨l', hl', hsame, -⟩ := h.list hl
  exact ⟨l', hl', hsame.id_eq.trans hid, hsame.issuer_eq.trans hissuer,
    hsame.purpose_eq.trans hpurpose, hsame.width_eq.trans hwidth⟩

theorem Extends.records {m m' : Memory} (h : m.Extends m') {a : Assignment} {e : StatusEntry}
    (hrecords : m.Records a e) : m'.Records a e := by
  obtain ⟨hcredential, hpurpose, stored, hstored, hsame⟩ := hrecords
  obtain ⟨stored', hstored', hsame'⟩ := h.entry hstored
  exact ⟨hcredential, hpurpose, stored', hstored', hsame.trans hsame'⟩

end Memory

namespace Service

variable {c : Config} {a : Assignment} {v : View}

/-- What an assignment may ask for: lists only of its group, and an entry only as long as it has
none, and only in a list of its group. -/
def MayAssign (a : Assignment) (v : View) : StoreRequest → Prop
  | .createList r => r.issuer = a.issuer ∧ r.purpose = a.purpose ∧
      SlotWidth.ofRequest r.width = .ok a.width
  | .createEntry r => v.made = [] ∧ r.credential = a.credential ∧ r.purpose = a.purpose ∧
      r.width = a.width ∧ v.memory.Offers a r.list
  | _ => True

/-- The list of an identifier is one of the group, and no entry was made yet. -/
def Chosen (a : Assignment) (v : View) (list : ListId) : Prop :=
  v.made = [] ∧ v.memory.Offers a list

/-- An entry is the one to return: it is the one that was made, if one was. -/
def Settled (a : Assignment) (v : View) (e : StatusEntry) : Prop :=
  v.memory.Records a e ∧ (v.made = [] ∨ v.made = [e])

theorem Chosen.leads {list : ListId} (h : Chosen a v list) {v' : View} (hv' : v.Leads v') :
    Chosen a v' list :=
  ⟨hv'.made_eq.trans h.1, hv'.extends.offers h.2⟩

theorem Settled.leads {e : StatusEntry} (h : Settled a v e) {v' : View} (hv' : v.Leads v') :
    Settled a v' e := by
  refine ⟨hv'.extends.records h.1, ?_⟩
  rw [hv'.made_eq]
  exact h.2

/-! ## Reading -/

theorem findEntry_keeps (hmade : v.made = []) :
    (findEntry a.credential a.purpose).Keeps (MayAssign a)
      (fun v found => v.made = [] ∧ ∀ e, found = some e → Settled a v e) v := by
  refine keeps_ofStore (.findEntry a.credential a.purpose) id
    (fun _ _ => trivial) ?_
  intro v' hv' stamp hfresh found hfound v'' hv''
  cases hfound
  rw [View.after_eq_self rfl rfl] at hv''
  have hnone : v''.made = [] := hv''.made_eq.trans (hv'.made_eq.trans hmade)
  refine ⟨hnone, ?_⟩
  intro e he
  obtain ⟨hstored, hcredential, hpurpose⟩ := v'.consistent.findEntry_eq_some_iff.mp he
  have hrecords : v'.memory.Records a e := ⟨hcredential, hpurpose, e, hstored, .refl e⟩
  exact ⟨hv''.extends.records hrecords, .inl hnone⟩

/-- The next slot of a list is only read. -/
theorem nextIndex_keeps {list : ListId} (h : Chosen a v list) (id : ListId) :
    (nextIndex id).Keeps (MayAssign a) (fun v _ => Chosen a v list) v := by
  unfold nextIndex getList
  refine Keeps.bind (fun v _ => Chosen a v list) ?_ ?_
  · refine Keeps.bind (fun v _ => Chosen a v list) ?_ ?_
    · refine keeps_ofStore (.findList id) (fun result => result)
        (fun _ _ => trivial) ?_
      intro v' hv' stamp hfresh found _ v'' hv''
      rw [View.after_eq_self rfl rfl] at hv''
      exact h.leads (hv'.trans hv'')
    · intro v' found hchosen
      split
      · exact keeps_pure fun v'' hv'' => hchosen.leads hv''
      · exact keeps_throw _
  · intro v' l hchosen
    exact keeps_pure fun v'' hv'' => hchosen.leads hv''

/-! ## Choosing a list -/

/-- The width that a request for a list of a group asks for is the width of the group. -/
theorem ofRequest_bits (width : SlotWidth) :
    SlotWidth.ofRequest (some (.ofNat width.bits)) = .ok width := by
  cases width <;> rfl

/-- A list that is made for a group is one of the group. -/
theorem createList_keeps (hmade : v.made = []) :
    (createList c (groupRequest a.issuer a.purpose a.width)).Keeps (MayAssign a)
      (fun v l => Chosen a v l.id) v := by
  unfold createList
  refine Keeps.bind (fun v _ => v.made = []) ?_ ?_
  · refine keeps_check ?_
    intro plan _ v' hv'
    exact hv'.made_eq.trans hmade
  · intro v₀ _ hmade
    refine keeps_ofStore (.createList (withDefaults c (groupRequest a.issuer a.purpose a.width)))
      id (fun _ _ => ⟨rfl, rfl, ofRequest_bits a.width⟩) ?_
    intro v' hv' stamp hfresh l hl v'' hv''
    obtain ⟨hcreate, hmemory⟩ := Memory.createList_answer hl
    obtain ⟨p, hp, rfl⟩ := StatusList.create_eq_ok hcreate
    have hwidth : p.width = a.width := by
      have hplan := (StatusList.plan_eq_ok hp).1
      rw [show (withDefaults c (groupRequest a.issuer a.purpose a.width)).width =
        some (.ofNat a.width.bits) from rfl, ofRequest_bits] at hplan
      exact (Except.ok.inj hplan).symm
    refine Chosen.leads ⟨?_, ?_⟩ hv''
    · show v'.made ++ [] = []
      rw [List.append_nil]
      exact hv'.made_eq.trans hmade
    · refine ⟨_, ?_, rfl, rfl, rfl, hwidth⟩
      show (v'.memory.answer stamp _).2.StoresList _
      rw [hmemory]
      exact Memory.putList_lists_self v'.memory _

theorem findOrCreate_keeps (hmade : v.made = []) :
    (findOrCreate c a.issuer a.purpose a.width).Keeps (MayAssign a)
      (fun v l => Chosen a v l.id) v := by
  unfold findOrCreate
  refine Keeps.bind (fun v found => v.made = [] ∧ ∀ l, found = some l → Chosen a v l.id) ?_ ?_
  · refine keeps_ofStore (.findAvailable a.issuer a.purpose a.width) id
      (fun _ _ => trivial) ?_
    intro v' hv' stamp hfresh found hfound v'' hv''
    cases hfound
    rw [View.after_eq_self rfl rfl] at hv''
    have hnone : v''.made = [] := hv''.made_eq.trans (hv'.made_eq.trans hmade)
    refine ⟨hnone, ?_⟩
    intro l hl
    obtain ⟨⟨hstored, hgroup, -⟩, -⟩ := v'.consistent.findAvailable_eq_some_iff.mp hl
    simp only [StatusList.inGroup, Bool.and_eq_true, decide_eq_true_eq] at hgroup
    have hoffers : v'.memory.Offers a l.id :=
      ⟨l, hstored, rfl, hgroup.1.1, hgroup.1.2, hgroup.2⟩
    exact ⟨hnone, hv''.extends.offers hoffers⟩
  · intro v' found hfound
    split
    · exact keeps_pure fun v'' hv'' => (hfound.2 _ rfl).leads hv''
    · exact createList_keeps hfound.1

theorem chooseSlot_keeps (hmade : v.made = []) :
    (chooseSlot c a).Keeps (MayAssign a)
      (fun v choice => v.made = [] ∧ ∀ slot, choice = some slot → Chosen a v slot.1) v := by
  have hpick : ∀ {v : View} {list : ListId} (index : UInt64), Chosen a v list →
      Keeps (MayAssign a)
        (fun v choice => v.made = [] ∧ ∀ slot, choice = some slot → Chosen a v slot.1) v
        (pure (some (list, index)) : Service (Option (ListId × UInt64))) := by
    intro v list index h
    refine keeps_pure fun v' hv' => ⟨(h.leads hv').1, ?_⟩
    rintro slot ⟨⟩
    exact h.leads hv'
  unfold chooseSlot
  refine Keeps.bind _ (findOrCreate_keeps hmade) ?_
  intro v₁ l hl
  refine Keeps.bind _ (nextIndex_keeps hl l.id) ?_
  intro v₂ next hnext
  split
  · exact hpick _ hnext
  · -- the list has filled up meanwhile
    refine Keeps.bind _ (createList_keeps hnext.1) ?_
    intro v₃ l' hl'
    refine Keeps.bind _ (nextIndex_keeps hl' l'.id) ?_
    intro v₄ next' hnext'
    split
    · exact hpick _ hnext'
    · refine keeps_pure fun v' hv' => ⟨(hnext'.leads hv').1, ?_⟩
      rintro slot ⟨⟩

/-! ## Attempts -/

/-- What one attempt comes to: an entry to return, or nothing, and then none was made. -/
def AttemptEnds (a : Assignment) (v : View) : Option StatusEntry → Prop
  | some e => Settled a v e
  | none => v.made = []

/-- The answer to a request for an entry: it is made, or else nothing is. -/
theorem requestEntry_keeps {list : ListId} (index : UInt64) (h : Chosen a v list) :
    Keeps (MayAssign a)
      (fun v answer => match answer with
        | .ok e => Settled a v e
        | .error _ => v.made = []) v
      (ExceptT.lift (Program.request (.createEntry (entryRequest a list index)))) := by
  refine keeps_lift ?_ ?_
  · intro v' hv'
    exact ⟨(h.leads hv').1, rfl, rfl, rfl, (h.leads hv').2⟩
  · intro v' hv' stamp hfresh v'' hv''
    have hnone : v'.made = [] := (h.leads hv').1
    split
    · rename_i e he
      obtain ⟨l, hallots, rfl, hmemory⟩ := Memory.createEntry_answer he
      have hstores : (v'.memory.answer stamp
          (.createEntry (entryRequest a list index))).2.StoresEntry
            (Memory.entryIn l (entryRequest a list index) stamp) := by
        rw [hmemory]
        exact (Memory.storesEntry_allotted hfresh).mpr (.inl rfl)
      refine Settled.leads ⟨⟨rfl, rfl, _, hstores, .refl _⟩, .inr ?_⟩ hv''
      show v'.made ++ StoreRequest.made _ (v'.memory.answer stamp _).1 = _
      rw [hnone, he]
      rfl
    · rename_i err herr
      rw [View.after_eq_self (Memory.createEntry_answer_error herr) (by rw [herr]; rfl)] at hv''
      exact hv''.made_eq.trans hnone

theorem attempt_keeps (hmade : v.made = []) :
    (attempt c a).Keeps (MayAssign a) (AttemptEnds a) v := by
  have hlost : ∀ {v : View}, v.made = [] →
      Keeps (MayAssign a) (AttemptEnds a) v (pure none : Service (Option StatusEntry)) :=
    fun hmade => keeps_pure fun v' hv' => hv'.made_eq.trans hmade
  unfold attempt
  refine Keeps.bind _ (chooseSlot_keeps hmade) ?_
  intro v₁ choice hchoice
  split
  · exact hlost hchoice.1
  · rename_i list index
    refine Keeps.bind _ (requestEntry_keeps index (hchoice.2 _ rfl)) ?_
    intro v₂ answer hanswer
    split
    · exact keeps_pure fun v' hv' => Settled.leads hanswer hv'
    · -- the credential has an entry by now
      refine Program.Keeps.weaken (fun _ _ h => h) ?_ (findEntry_keeps hanswer)
      intro v result hresult found hfound
      obtain ⟨hnone, hsettled⟩ := hresult found hfound
      cases found with
      | none => exact hnone
      | some e => exact hsettled e rfl
    · split
      · exact hlost hanswer
      · exact keeps_throw _

theorem attempts_keeps (n : Nat) (hmade : v.made = []) :
    (attempts c a n).Keeps (MayAssign a) (Settled a) v := by
  induction n generalizing v with
  | zero => exact keeps_throw _
  | succ n ih =>
    refine Keeps.bind _ (attempt_keeps hmade) ?_
    intro v₁ result hresult
    cases result with
    | some e => exact keeps_pure fun v' hv' => Settled.leads hresult hv'
    | none => exact ih hresult

/-! ## The assignment -/

/-- The assignment that a caller asks for, if the width that it names is one. -/
def Asks (credential : CredentialId) (issuer : IssuerId) (purpose : Purpose)
    (width : Option UInt32) (a : Assignment) : Prop :=
  SlotWidth.ofRequest width = .ok a.width ∧ a.credential = credential ∧ a.issuer = issuer ∧
    a.purpose = purpose

/-- **What an assignment keeps, whatever others do.** -/
theorem assign_keeps (credential : CredentialId) (issuer : IssuerId) (purpose : Purpose)
    (width : Option UInt32) (hmade : v.made = []) :
    (assign c credential issuer purpose width).Keeps
      (fun v q => ∃ a, Asks credential issuer purpose width a ∧ MayAssign a v q)
      (fun v e => ∃ a, Asks credential issuer purpose width a ∧ Settled a v e) v := by
  unfold assign
  refine Keeps.bind (fun v w => SlotWidth.ofRequest width = .ok w ∧ v.made = []) ?_ ?_
  · refine keeps_check ?_
    intro w hw v' hv'
    exact ⟨hw, hv'.made_eq.trans hmade⟩
  · rintro v₁ w ⟨hw, hmade⟩
    have hasks : Asks credential issuer purpose width ⟨credential, issuer, purpose, w⟩ :=
      ⟨hw, rfl, rfl, rfl⟩
    refine Program.Keeps.weaken
      (fun v q (hmay : MayAssign ⟨credential, issuer, purpose, w⟩ v q) => ⟨_, hasks, hmay⟩)
      (fun v result hresult e he => ⟨_, hasks, hresult e he⟩)
      (Keeps.bind _ (findEntry_keeps hmade) ?_)
    intro v₂ found hfound
    split
    · exact keeps_pure fun v' hv' => (hfound.2 _ rfl).leads hv'
    · exact attempts_keeps maxAttempts hfound.1

end Service

end StatusRegistry
