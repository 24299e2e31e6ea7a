import StatusRegistry.Proofs.Url.Hierarchy

/-!
# URLs read back

A URL is read from its scheme, what stands behind it up to the first question mark or number sign,
and the rest.

* `Scheme`, `readScheme_chars`: a scheme that was read is read back from its text;
* `parse_chars`: the reading of a text without controls and without blanks at its end;
* `unmarked_iff`: a URL has neither a query nor a fragment iff no sign in its text begins one;
* `parse_located`: a text with a name behind the last slash is a URL that ends in the name, and
  what follows a number sign is its fragment.
-/

set_option autoImplicit false

namespace StatusRegistry.Url

open Text

variable {scheme cs rest : List Char}

/-! ## Schemes -/

/-- A scheme as it is kept. -/
structure Scheme (scheme : List Char) : Prop where
  letter : ∀ c, scheme.head? = some c → isLetter c = true
  ne_nil : scheme ≠ []
  chars : ∀ c ∈ scheme, inScheme c = true
  lower : scheme.map lowerAscii = scheme

theorem inScheme_lowerAscii {c : Char} (h : inScheme c = true) :
    inScheme (lowerAscii c) = true ∧ (isLetter c = true → isLetter (lowerAscii c) = true) :=
  forall_inScheme (P := fun c => inScheme (lowerAscii c) = true ∧
    (isLetter c = true → isLetter (lowerAscii c) = true)) (by decide) h

theorem plain_of_inScheme {c : Char} (h : inScheme c = true) : Plain c ∧ c ≠ ':' :=
  forall_inScheme (P := fun c => Plain c ∧ c ≠ ':') (by decide) h

/-- What is read as a scheme, and what stands behind it. -/
theorem readScheme_eq_some (h : readScheme cs = some (scheme, rest)) :
    Scheme scheme ∧ ∃ front, cs = front ++ ':' :: rest ∧ ∀ c ∈ front, inScheme c = true := by
  unfold readScheme at h
  split at h
  · rename_i c behind hhead hdrop
    split at h
    · rename_i hletter
      cases h
      have hfront : ∀ d ∈ cs.takeWhile inScheme, inScheme d = true :=
        List.all_eq_true.mp List.all_takeWhile
      have hin : inScheme c = true := by simp [inScheme, hletter]
      obtain ⟨others, rfl⟩ := List.head?_eq_some_iff.mp hhead
      refine ⟨⟨?_, ?_, ?_, ?_⟩, _, ?_, hfront⟩
      · intro d hd
        rw [List.takeWhile_cons, hin, if_pos rfl, List.map_cons] at hd
        cases hd
        exact (inScheme_lowerAscii hin).2 hletter
      · rw [List.takeWhile_cons, hin, if_pos rfl]
        simp
      · intro d hd
        obtain ⟨e, he, rfl⟩ := List.mem_map.mp hd
        exact (inScheme_lowerAscii (hfront e he)).1
      · rw [List.map_map]
        exact List.map_congr_left fun d _ => lowerAscii_lowerAscii d
      · rw [← hdrop, List.takeWhile_append_dropWhile]
    · cases h
  · cases h

theorem readScheme_chars (h : Scheme scheme) (rest : List Char) :
    readScheme (scheme ++ ':' :: rest) = some (scheme, rest) := by
  obtain ⟨c, others, rfl⟩ := List.exists_cons_of_ne_nil h.ne_nil
  have hletter := h.letter c rfl
  have hfront : ∀ d ∈ c :: others, inScheme d = true := h.chars
  have htake : ((c :: others) ++ ':' :: rest).takeWhile inScheme = c :: others := by
    rw [List.takeWhile_append_of_pos hfront]
    simp [inScheme, isLetter, isDigit]
  have hdrop : ((c :: others) ++ ':' :: rest).dropWhile inScheme = ':' :: rest := by
    rw [List.dropWhile_append_of_pos hfront]
    simp [inScheme, isLetter, isDigit]
  unfold readScheme
  rw [htake, hdrop, h.lower]
  exact if_pos hletter

/-! ## The whole URL -/

/-- The query that begins what stands behind the path. -/
def readQuery (kind : Kind) : List Char → Option (List Char)
  | '?' :: cs =>
    some (encode (if kind.special then .specialQuery else .query) (cs.takeWhile (· != '#')))
  | _ => none

/-- The fragment that ends what stands behind the path. -/
def readFragment (cs : List Char) : Option (List Char) :=
  match cs.dropWhile (· != '#') with
  | '#' :: cs => some (encode .fragment cs)
  | _ => none

/-- The characters in front of the path's end. -/
def untilEnd (cs : List Char) : List Char := cs.takeWhile fun c => !endsPath c

/-- The characters from the path's end on. -/
def fromEnd (cs : List Char) : List Char := cs.dropWhile fun c => !endsPath c

/-- What was read, part by part. -/
theorem parse_eq_ok [DomainNames] {s : String} {u : Url} (h : parse s = .ok u) :
    ∃ rest hierarchy, readScheme (withoutBreaks (trimControls s.toList)) = some (u.scheme, rest) ∧
      readHierarchy (Kind.ofScheme u.scheme) (fromEnd rest).isEmpty hierarchy =
        .ok (u.authority, u.path) ∧
      u.query = readQuery (Kind.ofScheme u.scheme) (fromEnd rest) ∧
      u.fragment = readFragment (fromEnd rest) := by
  unfold parse at h
  dsimp only at h
  split at h
  · cases h
  · rename_i scheme rest hscheme
    split at h
    · cases h
    · rename_i authority path hread
      cases h
      exact ⟨rest, _, hscheme, hread, rfl, rfl⟩

/-- **What is read has a scheme**, and the authority and path of its kind. -/
theorem parse_sound [DomainNames] {s : String} {u : Url} (h : parse s = .ok u) :
    Scheme u.scheme ∧ Hierarchy (Kind.ofScheme u.scheme) u.authority u.path := by
  obtain ⟨rest, hierarchy, hscheme, hread, -, -⟩ := parse_eq_ok h
  exact ⟨(readScheme_eq_some hscheme).1, readHierarchy_cases hread⟩

/-- A text that begins and ends with a visible character has no controls around it. -/
theorem trimControls_eq_self (hhead : ∀ c, cs.head? = some c → 0x20 < c.toNat)
    (hlast : ∀ c, cs.getLast? = some c → 0x20 < c.toNat) : trimControls cs = cs := by
  have hfront : cs.dropWhile (fun c => decide (c.toNat ≤ 0x20)) = cs :=
    dropWhile_eq_iff.mpr ⟨[], rfl, nofun, fun c hc => by simpa using hhead c hc⟩
  unfold trimControls
  dsimp only
  rw [hfront]
  exact dropEnd_eq_iff.mpr ⟨[], by simp, nofun, fun c hc => by simpa using hlast c hc⟩

/-- The reading of a text without controls and without blanks at its end. -/
theorem parse_chars [DomainNames] (hscheme : Scheme scheme) (hrest : ∀ c ∈ rest, 0x20 ≤ c.toNat)
    (hlast : ∀ c, rest.getLast? = some c → 0x20 < c.toNat) :
    parse (String.ofList (scheme ++ ':' :: rest)) =
      (readHierarchy (Kind.ofScheme scheme) (fromEnd rest).isEmpty (untilEnd rest)).map
        fun (authority, path) =>
          ⟨scheme, authority, path, readQuery (Kind.ofScheme scheme) (fromEnd rest),
            readFragment (fromEnd rest)⟩ := by
  have hvisible : ∀ c ∈ scheme, 0x20 < c.toNat := fun c hc =>
    (plain_of_inScheme (hscheme.chars c hc)).1.1
  have htrim : trimControls (scheme ++ ':' :: rest) = scheme ++ ':' :: rest := by
    refine trimControls_eq_self (fun c hc => ?_) fun c hc => ?_
    · obtain ⟨d, others, hcons⟩ := List.exists_cons_of_ne_nil hscheme.ne_nil
      rw [hcons] at hc
      cases hc
      exact hvisible _ (by simp [hcons])
    · rw [List.getLast?_append, List.getLast?_cons, Option.some_or, Option.some.injEq] at hc
      cases hend : rest.getLast? with
      | none =>
        rw [hend] at hc
        subst hc
        decide
      | some d =>
        rw [hend] at hc
        exact hlast c (hc ▸ hend)
  have hbreaks : withoutBreaks (scheme ++ ':' :: rest) = scheme ++ ':' :: rest := by
    refine withoutBreaks_of_le fun c hc => ?_
    rcases List.mem_append.mp hc with hc | hc
    · exact Nat.le_of_lt (hvisible c hc)
    · rcases List.mem_cons.mp hc with rfl | hc
      · decide
      · exact hrest c hc
  have hbehind : ((scheme ++ ':' :: rest).dropWhile (· != ':')).drop 1 = rest := by
    have hfront : ∀ c ∈ scheme, (c != ':') = true := by
      intro c hc
      simpa using (plain_of_inScheme (hscheme.chars c hc)).2
    rw [List.dropWhile_append_of_pos hfront]
    rfl
  unfold parse
  dsimp only
  rw [String.toList_ofList, htrim, hbreaks, readScheme_chars hscheme, hbehind]
  dsimp only
  unfold untilEnd fromEnd
  generalize readHierarchy _ _ _ = read
  cases read with
  | error e => rfl
  | ok result => rfl

/-! ## Queries and fragments -/

/-- A sign that ends the path begins a query or a fragment. -/
theorem readQuery_readFragment_iff (kind : Kind) (cs : List Char) :
    readQuery kind (fromEnd cs) = none ∧ readFragment (fromEnd cs) = none ↔
      ∀ c ∈ cs, endsPath c = false := by
  have hnil : (∀ c ∈ cs, endsPath c = false) ↔ fromEnd cs = [] := by
    simp [fromEnd, List.dropWhile_eq_nil_iff]
  rw [hnil]
  constructor
  · rintro ⟨hquery, hfragment⟩
    cases hend : fromEnd cs with
    | nil => rfl
    | cons c rest =>
      have hsign : endsPath c = true := by
        have hhead := List.head?_dropWhile_not (fun c => !endsPath c) cs
        rw [← fromEnd, hend] at hhead
        simpa using hhead
      simp only [endsPath, Bool.or_eq_true, beq_iff_eq] at hsign
      rcases hsign with rfl | rfl
      · rw [hend] at hquery
        cases hquery
      · rw [hend] at hfragment
        cases hfragment
  · intro hend
    rw [hend]
    exact ⟨rfl, rfl⟩

/-- What counts of a text has the same signs as the text. -/
theorem mem_withoutBreaks_trimControls {c : Char} (hc : endsPath c = true) :
    c ∈ withoutBreaks (trimControls cs) ↔ c ∈ cs := by
  have hsign : isBreak c = false ∧ decide (c.toNat ≤ 0x20) = false := by
    simp only [endsPath, Bool.or_eq_true, beq_iff_eq] at hc
    rcases hc with rfl | rfl
    · decide
    · decide
  obtain ⟨back, hmiddle, hback, -⟩ := dropEnd_eq_iff.mp (Eq.refl (trimControls cs))
  obtain ⟨front, hcs, hfront, -⟩ := dropWhile_eq_iff.mp hmiddle
  have houter : c ∉ front ∧ c ∉ back := by
    constructor
    · intro hmem
      exact Bool.false_ne_true (hsign.2.symm.trans (hfront c hmem))
    · intro hmem
      exact Bool.false_ne_true (hsign.2.symm.trans (hback c hmem))
  have hmem : c ∈ cs ↔ c ∈ trimControls cs := by
    refine ⟨fun hmem => ?_, fun hmem => ?_⟩
    · rw [hcs] at hmem
      simpa [houter.1, houter.2] using hmem
    · rw [hcs]
      exact List.mem_append_right _ (List.mem_append_left _ hmem)
  rw [withoutBreaks, List.mem_filter, hsign.1, hmem]
  exact and_iff_left rfl

/-- **A URL has neither a query nor a fragment** iff no sign in its text begins one. -/
theorem unmarked_iff [DomainNames] {s : String} {u : Url} (h : parse s = .ok u) :
    u.query = none ∧ u.fragment = none ↔ ∀ c ∈ s.toList, endsPath c = false := by
  obtain ⟨rest, hierarchy, hscheme, -, hquery, hfragment⟩ := parse_eq_ok h
  obtain ⟨-, front, hfront, hin⟩ := readScheme_eq_some hscheme
  rw [hquery, hfragment, readQuery_readFragment_iff]
  have hsame : ∀ c, endsPath c = true → (c ∈ s.toList ↔ c ∈ rest) := by
    intro c hc
    rw [← mem_withoutBreaks_trimControls hc, hfront, List.mem_append, List.mem_cons]
    constructor
    · rintro (hmem | rfl | hmem)
      · have hplain := endsPath_of_plain (plain_of_inScheme (hin c hmem)).1
        rw [hplain] at hc
        cases hc
      · cases hc
      · exact hmem
    · exact fun hmem => .inr (.inr hmem)
  have hsigns : ∀ xs : List Char, (∀ c ∈ xs, endsPath c = false) ↔
      ∀ c, endsPath c = true → c ∉ xs := by
    intro xs
    refine forall_congr' fun c => ?_
    rw [← not_imp_not, Bool.not_eq_false]
  rw [hsigns, hsigns]
  exact forall_congr' fun c => imp_congr_right fun hc => not_congr (hsame c hc).symm

/-! ## A name behind the last slash -/

/-- **A text with a name behind the last slash** is a URL whose last segment is the name, without a
query; its fragment is what stands behind a number sign. -/
theorem parse_located [DomainNames] {name : List Char} (hscheme : Scheme scheme)
    (h : Located (Kind.ofScheme scheme) name cs) (hplain : ∀ c ∈ cs, Plain c) (hname : Name name)
    {fragment : Option (List Char)}
    (hfragment : ∀ f ∈ fragment, ∀ c ∈ f, Part.fragment.keeps c = true) :
    ∃ u segments, parse (String.ofList (scheme ++ ':' :: (cs ++ marked '#' fragment))) = .ok u ∧
      u.query = none ∧ u.fragment = fragment ∧ u.path = .segments segments ∧
      segments.getLast? = some name := by
  have hmarked : ∀ c ∈ marked '#' fragment, 0x20 < c.toNat := by
    intro c hc
    cases fragment with
    | none => cases hc
    | some f =>
      rcases List.mem_cons.mp hc with rfl | hc
      · decide
      · exact forall_keeps (P := fun c => 0x20 < c.toNat) (by decide) (hfragment f rfl c hc)
  have hvisible : ∀ c ∈ cs ++ marked '#' fragment, 0x20 < c.toNat := by
    intro c hc
    rcases List.mem_append.mp hc with hc | hc
    · exact (hplain c hc).1
    · exact hmarked c hc
  have hfront : ∀ c ∈ cs, (!endsPath c) = true := by
    intro c hc
    rw [endsPath_of_plain (hplain c hc)]
    rfl
  have huntil : untilEnd (cs ++ marked '#' fragment) = cs := by
    rw [untilEnd, List.takeWhile_append_of_pos hfront]
    cases fragment with
    | none => exact List.append_nil cs
    | some f => exact List.append_nil cs
  have hfrom : fromEnd (cs ++ marked '#' fragment) = marked '#' fragment := by
    rw [fromEnd, List.dropWhile_append_of_pos hfront]
    cases fragment with
    | none => rfl
    | some f => rfl
  have hread : readFragment (marked '#' fragment) = fragment := by
    cases fragment with
    | none => rfl
    | some f => exact congrArg some (encode_kept (hfragment f rfl))
  obtain ⟨authority, segments, hhierarchy, hlast⟩ :=
    readHierarchy_located h hplain hname (marked '#' fragment).isEmpty
  rw [parse_chars hscheme (fun c hc => Nat.le_of_lt (hvisible c hc))
    (fun c hc => hvisible c (List.mem_of_getLast? hc)), huntil, hfrom, hhierarchy]
  refine ⟨_, segments, rfl, ?_, hread, rfl, hlast⟩
  cases fragment with
  | none => rfl
  | some f => rfl

/-- A path that is not looked into is none of segments again. -/
theorem parse_unread [DomainNames] {u : Url} (hscheme : Scheme scheme)
    (hother : Kind.ofScheme scheme = .other) (hroot : cs.head? ≠ some '/')
    (hchars : ∀ c ∈ cs, 0x20 ≤ c.toNat)
    (hlast : ∀ c, cs.getLast? = some c → 0x20 < c.toNat)
    (h : parse (String.ofList (scheme ++ ':' :: cs)) = .ok u) :
    ∃ path, u.path = .opaquePath path := by
  have hbreaks : withoutBreaks (untilEnd cs) = untilEnd cs :=
    withoutBreaks_of_le fun c hc => hchars c (List.takeWhile_subset _ hc)
  have hhead : (withoutBreaks (untilEnd cs)).head? ≠ some '/' := by
    rw [hbreaks]
    intro heq
    refine hroot ?_
    -- What is read up to the path's end begins as the text does.
    have hbegin := List.takeWhile_prefix (fun c => !endsPath c) (l := cs)
    rw [← untilEnd] at hbegin
    obtain ⟨rest, htake⟩ := List.head?_eq_some_iff.mp heq
    obtain ⟨back, hcs⟩ := hbegin
    rw [← hcs, htake]
    rfl
  rw [parse_chars hscheme hchars hlast, hother, readHierarchy_unread hhead] at h
  cases h
  exact ⟨_, rfl⟩

end StatusRegistry.Url
