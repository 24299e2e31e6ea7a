import StatusRegistry.Proofs.Service.Assignment
import StatusRegistry.Proofs.Service.Turns
import StatusRegistry.Proofs.Store.Groups

/-!
# Calls elsewhere

What others do while credentials are given their slots in a group: they read, they change settings
and statuses anywhere, and they make lists and assign credentials in other groups.  None of it
touches the group.

* `Program.Keeps.turns`: what a program may ask for is what it asks for at each of its turns;
* `Gaps`: what holds of each gap between the turns of a call, from the store on that it meets;
* `Elsewhere`, `Elsewhere.untouched`: what others do, and that the group does not see it.
-/

set_option autoImplicit false

namespace StatusRegistry

/-! ## Turns and the gaps between them -/

/-- Whatever a program may ask for as the others go on, it asks for nothing else at its turns. -/
theorem Program.Keeps.turns {α : Type} {may : View → StoreRequest → Prop} {good : View → α → Prop}
    {p : Program α} {v : View} (hp : p.Keeps may good v) {turns : List Turn} {m' : Memory} {a : α}
    (h : Plays p v.memory turns m' a) {t : Turn} (ht : t ∈ turns) :
    ∃ v' : View, v'.memory = t.before ∧ may v' t.request := by
  obtain ⟨hcourse, hsays⟩ := h
  induction p generalizing v turns with
  | done b =>
    obtain ⟨hmap, -⟩ := says_done_iff.mp hsays
    rw [List.map_eq_nil_iff.mp hmap] at ht
    cases ht
  | ask q next ih =>
    obtain ⟨answer, log, hmap, hrest⟩ := says_ask_iff.mp hsays
    obtain ⟨before, stamp, rest, rfl, rfl, rfl⟩ := Service.map_inquiry_eq_cons.mp hmap
    cases hcourse with
    | cons leads fresh hcourse =>
      have hleads : v.Leads ⟨before, leads.consistent v.consistent, v.made⟩ := ⟨leads, rfl⟩
      obtain ⟨hmay, hnext⟩ := hp _ hleads
      rcases List.mem_cons.mp ht with rfl | ht
      · exact ⟨_, rfl, hmay⟩
      · exact ih _ (hnext stamp fresh) ht hcourse hrest
  | clock next ih =>
    obtain ⟨now, hnow⟩ := says_clock_iff.mp hsays
    exact ih now (hp now) ht hcourse hnow

/-- What holds of the stores before and after each gap between the turns of a call. -/
def Gaps (R : Memory → Memory → Prop) : Memory → List Turn → Prop
  | _, [] => True
  | m, t :: turns => R m t.before ∧ Gaps R t.after turns

theorem Undisturbed.gaps {R : Memory → Memory → Prop} (hrefl : ∀ m, R m m) {m : Memory}
    {turns : List Turn} (h : Undisturbed m turns) : Gaps R m turns := by
  induction turns generalizing m with
  | nil => trivial
  | cons t turns ih =>
    obtain ⟨rfl, hrest⟩ := h
    exact ⟨hrefl _, ih hrest⟩

theorem Course.gaps_append {R : Memory → Memory → Prop} {m m' : Memory} {front back : List Turn}
    (h : Course m front m') : Gaps R m (front ++ back) ↔ Gaps R m front ∧ Gaps R m' back := by
  induction h with
  | nil m => simp [Gaps]
  | cons leads fresh _ ih => simp only [List.cons_append, Gaps, ih, and_assoc]

/-- A service goes on after its first part, with the gaps that are left, if no error can come of
that part. -/
theorem Service.plays_bind_of_ok {α β : Type} {R : Memory → Memory → Prop} {x : Service α}
    {f : α → Service β} {m m' : Memory} {turns : List Turn} {r : Except ServiceError β}
    {good : Except ServiceError α → Memory → Prop} (h : Plays (x >>= f).run m turns m' r)
    (hgaps : Gaps R m turns)
    (hx : ∀ {front m₁ r₁}, Plays x.run m front m₁ r₁ → Gaps R m front → good r₁ m₁)
    (herr : ∀ err m₁, ¬ good (.error err) m₁) :
    ∃ a m₁ back, good (.ok a) m₁ ∧ Plays (f a).run m₁ back m' r ∧ Gaps R m₁ back := by
  rcases plays_bind_iff.mp h with ⟨err, hfront, -⟩ | ⟨a, front, back, m₁, rfl, hfront, hback⟩
  · exact absurd (hx hfront hgaps) (herr err m')
  · obtain ⟨hgaps₁, hgaps₂⟩ := hfront.course.gaps_append.mp hgaps
    exact ⟨a, m₁, back, hx hfront hgaps₁, hback, hgaps₂⟩

variable {g : Group} {kept : List CredentialId} {m m' m'' : Memory}

open Memory (Untouched)

/-- A call that spares a group at each of its turns leaves it untouched, if the others do. -/
theorem Course.untouched {turns : List Turn} (h : Course m turns m') (hm : m.Consistent)
    (hgaps : Gaps (Untouched g kept) m turns)
    (hspares : ∀ t ∈ turns, t.request.Spares g kept t.before) : Untouched g kept m m' := by
  induction h with
  | nil m => exact .refl g kept m
  | @cons m m' t turns leads fresh _ ih =>
    obtain ⟨hgap, hgaps⟩ := hgaps
    have hbefore := leads.consistent hm
    have hturn : Untouched g kept t.before t.after :=
      Memory.untouched_answer hbefore fresh (hspares t List.mem_cons_self)
    have hrest := ih (Memory.answer_consistent hbefore fresh) hgaps
      fun t' ht' => hspares t' (List.mem_cons_of_mem t ht')
    exact (hgap.trans hturn).trans hrest

theorem Alone.untouched {α : Type} {p : Program α} {a : α} (h : Alone p m m' a)
    (hm : m.Consistent) (hspares : ∀ turns, Plays p m turns m' a →
      ∀ t ∈ turns, t.request.Spares g kept t.before) : Untouched g kept m m' := by
  obtain ⟨turns, hplays, halone⟩ := h
  exact hplays.course.untouched hm (halone.gaps (Untouched.refl g kept)) (hspares turns hplays)

/-! ## What calls ask for -/

namespace Service

variable {c : Config}

/-- An assignment in another group spares a group, unless it is for a credential that is kept. -/
theorem assign_spares {credential : CredentialId} {issuer : IssuerId} {purpose : Purpose}
    {width : Option UInt32} (hm : m.Consistent)
    (hgroup : ¬ (issuer = g.issuer ∧ purpose = g.purpose ∧ SlotWidth.ofRequest width = .ok g.width))
    (hkept : ¬ (credential ∈ kept ∧ purpose = g.purpose)) {turns : List Turn}
    {r : Except ServiceError StatusEntry}
    (h : Plays (assign c credential issuer purpose width).run m turns m' r) {t : Turn}
    (ht : t ∈ turns) : t.request.Spares g kept t.before := by
  obtain ⟨v, hv, a, ⟨hwidth, rfl, rfl, rfl⟩, hmay⟩ :=
    (assign_keeps (c := c) (v := ⟨m, hm, []⟩) credential issuer purpose width rfl).turns h ht
  have hother : (⟨a.issuer, a.purpose, a.width⟩ : Group) ≠ g := by
    rintro rfl
    exact hgroup ⟨rfl, rfl, hwidth⟩
  cases hq : t.request with
  | createList r =>
    rw [hq] at hmay
    obtain ⟨hissuer, hpurpose, hwidth'⟩ := hmay
    rintro ⟨hissuer', hpurpose', hwidth''⟩
    rw [hwidth'] at hwidth''
    exact hgroup ⟨hissuer.symm.trans hissuer', hpurpose.symm.trans hpurpose',
      hwidth.trans hwidth''⟩
  | createEntry r =>
    rw [hq] at hmay
    obtain ⟨-, hcredential, hpurpose, -, l, hl, hid, hissuer, hpurpose', hwidth'⟩ := hmay
    refine ⟨?_, ?_⟩
    · intro l' hl' hgroup'
      rw [← hv, ← hid, hl] at hl'
      cases hl'
      apply hother
      rw [← hgroup', StatusList.group, hissuer, hpurpose', hwidth']
    · rw [hcredential, hpurpose]
      exact hkept
  | _ => trivial

/-- All that a call for a list asks for is that list. -/
theorem createList_asks (request : ListRequest) (v : View) :
    (createList c request).Keeps (fun _ q => q = .createList (withDefaults c request))
      (fun _ _ => True) v := by
  unfold createList
  refine Keeps.bind (fun _ _ => True) (keeps_check fun _ _ _ _ => trivial) ?_
  intro v' _ _
  exact keeps_ofStore (.createList (withDefaults c request)) id (fun _ _ => rfl)
    fun _ _ _ _ _ _ _ _ => trivial

/-- A call for a list of another group spares a group. -/
theorem createList_spares {request : ListRequest} (hm : m.Consistent)
    (hgroup : ¬ request.InGroup g) {turns : List Turn} {r : Except ServiceError StatusList}
    (h : Plays (createList c request).run m turns m' r) {t : Turn} (ht : t ∈ turns) :
    t.request.Spares g kept t.before := by
  obtain ⟨-, -, hq⟩ := (createList_asks (c := c) request ⟨m, hm, []⟩).turns h ht
  rw [hq]
  exact hgroup

/-- A change of settings reads a list and stores its settings. -/
theorem updateSettings_asks (list : ListId) (ttl : Option Int64) (metadata : Option Json.Members)
    (v : View) :
    (updateSettings list ttl metadata).Keeps (fun _ q => q.Quiet) (fun _ _ => True) v := by
  unfold updateSettings getList
  refine Keeps.bind (fun _ _ => True) (Keeps.bind (fun _ _ => True) ?_ ?_) ?_
  · exact keeps_ofStore (.findList list) id (fun _ _ => trivial) fun _ _ _ _ _ _ _ _ => trivial
  · intro v₁ found _
    split
    · exact keeps_pure fun _ _ => trivial
    · exact keeps_throw _
  · intro v₁ l _
    refine Keeps.bind (fun _ _ => True) (fun _ _ _ _ _ => trivial) ?_
    intro v₂ now _
    refine Keeps.bind (fun _ _ => True) (keeps_check fun _ _ _ _ => trivial) ?_
    intro v₃ l' _
    exact keeps_ofStore (.updateList (l'.setMetadata metadata now)) id (fun _ _ => trivial)
      fun _ _ _ _ _ _ _ _ => trivial

/-- A change of settings spares every group. -/
theorem updateSettings_spares {list : ListId} {ttl : Option Int64}
    {metadata : Option Json.Members} (hm : m.Consistent) {turns : List Turn}
    {r : Except ServiceError StatusList}
    (h : Plays (updateSettings list ttl metadata).run m turns m' r) {t : Turn} (ht : t ∈ turns) :
    t.request.Spares g kept t.before := by
  obtain ⟨-, -, hquiet⟩ := (updateSettings_asks list ttl metadata ⟨m, hm, []⟩).turns h ht
  exact hquiet.spares g kept t.before

end Service

/-! ## What others do -/

/-- What others do while credentials are given their slots in a group. -/
inductive Elsewhere (g : Group) (kept : List CredentialId) (m : Memory) : Memory → Prop where
  | refl : Elsewhere g kept m m
  /-- An operation that makes neither a list nor an entry, such as the change of a status. -/
  | operation {m' : Memory} (others : Elsewhere g kept m m') (stamp : Stamp) (q : StoreRequest)
      (quiet : q.Quiet) : Elsewhere g kept m (m'.answer stamp q).2
  /-- A change of settings. -/
  | updateSettings {m' m'' : Memory} (others : Elsewhere g kept m m') {list : ListId}
      {ttl : Option Int64} {metadata : Option Json.Members} {r : Except ServiceError StatusList}
      (alone : Alone (Service.updateSettings list ttl metadata).run m' m'' r) :
      Elsewhere g kept m m''
  /-- A call for a list of another group. -/
  | createList {m' m'' : Memory} (others : Elsewhere g kept m m') {c : Config}
      {request : ListRequest} {r : Except ServiceError StatusList}
      (elsewhere : ¬ request.InGroup g)
      (alone : Alone (Service.createList c request).run m' m'' r) : Elsewhere g kept m m''
  /-- An assignment in another group, which gives none of the credentials that are kept an entry
  for the purpose of the group. -/
  | assign {m' m'' : Memory} (others : Elsewhere g kept m m') {c : Config}
      {credential : CredentialId} {issuer : IssuerId} {purpose : Purpose} {width : Option UInt32}
      {r : Except ServiceError StatusEntry}
      (elsewhere : ¬ (issuer = g.issuer ∧ purpose = g.purpose ∧
        SlotWidth.ofRequest width = .ok g.width))
      (spares : ¬ (credential ∈ kept ∧ purpose = g.purpose))
      (alone : Alone (Service.assign c credential issuer purpose width).run m' m'' r) :
      Elsewhere g kept m m''

namespace Elsewhere

theorem trans (h : Elsewhere g kept m m') (h' : Elsewhere g kept m' m'') :
    Elsewhere g kept m m'' := by
  induction h' with
  | refl => exact h
  | operation _ stamp q quiet ih => exact .operation ih stamp q quiet
  | updateSettings _ alone ih => exact .updateSettings ih alone
  | createList _ elsewhere alone ih => exact .createList ih elsewhere alone
  | assign _ elsewhere spares alone ih => exact .assign ih elsewhere spares alone

/-- **What others do leaves the group untouched.** -/
theorem untouched (h : Elsewhere g kept m m') (hm : m.Consistent) : Untouched g kept m m' := by
  induction h with
  | refl => exact .refl g kept m
  | operation _ stamp q quiet ih =>
    have hm' := ih.leads.consistent hm
    exact ih.trans (Memory.untouched_answer hm' (quiet.fresh _ _) (quiet.spares _ _ _))
  | updateSettings _ alone ih =>
    have hm' := ih.leads.consistent hm
    exact ih.trans (alone.untouched hm' fun _ hplays _ ht =>
      Service.updateSettings_spares hm' hplays ht)
  | createList _ elsewhere alone ih =>
    have hm' := ih.leads.consistent hm
    exact ih.trans (alone.untouched hm' fun _ hplays _ ht =>
      Service.createList_spares hm' elsewhere hplays ht)
  | assign _ elsewhere spares alone ih =>
    have hm' := ih.leads.consistent hm
    exact ih.trans (alone.untouched hm' fun _ hplays _ ht =>
      Service.assign_spares hm' elsewhere spares hplays ht)

end Elsewhere

end StatusRegistry
