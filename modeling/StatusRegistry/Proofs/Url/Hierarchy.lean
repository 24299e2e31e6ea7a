import StatusRegistry.Proofs.Url.Authority
import StatusRegistry.Proofs.Url.Path

/-!
# Authorities and paths read back

What stands between the scheme and the query of a URL, by the kind of its scheme.

* `Hierarchy`: the authorities and paths that are read (`readHierarchy_cases`);
* `Located`: a text in which a name stands behind the last slash, so that it is the last segment of
  a path (`readHierarchy_located`);
* `located_of_hierarchy`: an authority and a path that were read give such a text once the slashes
  at the end have given way to a directory and a name.
-/

set_option autoImplicit false

namespace StatusRegistry.Url

open Text

variable {kind : Kind} {atEnd : Bool} {cs name : List Char}

/-! ## One kind after another -/

/-- The authority that stands in front of a path. -/
def readServed [DomainNames] (kind : Kind) (atEnd : Bool) (cs : List Char) :
    Except Fault (Option Authority × Path) :=
  let path := cs.dropWhile fun c => !kind.endsAuthority c
  match readAuthority kind (atEnd && path.isEmpty) (cs.takeWhile fun c => !kind.endsAuthority c)
  with
  | .error e => .error e
  | .ok (a, extra) => .ok (some a, readPath kind (extra ++ path))

theorem readHierarchy_file [DomainNames] (atEnd : Bool) (cs : List Char) :
    readHierarchy .file atEnd cs = (readFile cs).map fun (a, path) => (some a, path) := rfl

theorem readHierarchy_network [DomainNames] (port : Nat) (atEnd : Bool) (cs : List Char) :
    readHierarchy (.network port) atEnd cs =
      readServed (.network port) atEnd
        ((withoutBreaks cs).dropWhile (Kind.separates (.network port))) := rfl

theorem readHierarchy_slashes [DomainNames] {rest : List Char}
    (h : withoutBreaks cs = '/' :: '/' :: rest) :
    readHierarchy .other atEnd cs = readServed .other atEnd rest := by
  unfold readHierarchy
  rw [h]
  rfl

theorem readHierarchy_slash [DomainNames] {rest : List Char} (h : withoutBreaks cs = '/' :: rest)
    (hroot : rest.head? ≠ some '/') :
    readHierarchy .other atEnd cs = .ok (none, .segments (readSegments .other rest)) := by
  unfold readHierarchy
  rw [h]
  split
  · contradiction
  · contradiction
  · rename_i heq
    cases heq
    exact absurd rfl hroot
  · rename_i heq
    cases heq
    rfl
  · rename_i hnone
    exact absurd rfl (hnone rest)

theorem readHierarchy_unread [DomainNames] (h : (withoutBreaks cs).head? ≠ some '/') :
    readHierarchy .other atEnd cs =
      .ok (none, .opaquePath (encode .opaquePart (withoutBreaks cs))) := by
  unfold readHierarchy
  generalize withoutBreaks cs = text at h ⊢
  split
  · contradiction
  · contradiction
  · exact absurd rfl h
  · exact absurd rfl h
  · rfl

/-! ## What is read -/

/-- Whether a scheme needs no host. -/
def Kind.Hostless (kind : Kind) : Prop := ∀ port, kind ≠ .network port

theorem hostless_other : Kind.Hostless .other := nofun

/-- The authorities and paths that are read for a kind of scheme. -/
inductive Hierarchy (kind : Kind) : Option Authority → Path → Prop
  /-- A host serves the path. -/
  | served {a : Authority} {segments : List (List Char)} (sound : a.Sound kind)
      (host : a.host ≠ .empty) (file : kind = .file → a.credentials = [] ∧ a.port = none)
      (path : ∀ s ∈ segments, Segment s) : Hierarchy kind (some a) (.segments segments)
  /-- There is an authority, but no host. -/
  | unserved {segments : List (List Char)} (hostless : kind.Hostless)
      (path : ∀ s ∈ segments, Segment s) : Hierarchy kind (some localAuthority) (.segments segments)
  | plain {segments : List (List Char)} (other : kind = .other) (ne_nil : segments ≠ [])
      (path : ∀ s ∈ segments, Segment s) : Hierarchy kind none (.segments segments)
  /-- The path is not looked into. -/
  | unread {cs : List Char} (other : kind = .other)
      (keeps : ∀ c ∈ cs, Part.opaquePart.keeps c = true) (root : cs.head? ≠ some '/') :
      Hierarchy kind none (.opaquePath cs)

/-- An authority without a host is empty. -/
theorem Authority.Sound.eq_local {a : Authority} (h : a.Sound kind) (hempty : a.host = .empty) :
    a = localAuthority ∧ kind = .other := by
  constructor
  · obtain ⟨hcredentials, hport⟩ := h.alone hempty
    obtain ⟨username, password, host, port⟩ := a
    cases hport
    cases hempty
    unfold Authority.credentials at hcredentials
    dsimp only at hcredentials
    split at hcredentials
    · rename_i hnone
      simp only [Bool.and_eq_true, List.isEmpty_iff] at hnone
      rw [hnone.1, hnone.2]
      rfl
    · simp at hcredentials
  · rcases h.host with ⟨-, hknown⟩ | ⟨hspecial, -⟩
    · rw [hempty] at hknown
      cases hknown
    · cases kind with
      | network => cases hspecial
      | file => cases hspecial
      | other => rfl

theorem readServed_cases [DomainNames] {authority : Option Authority} {path : Path}
    (hfile : kind ≠ .file) (h : readServed kind atEnd cs = .ok (authority, path)) :
    Hierarchy kind authority path := by
  unfold readServed at h
  dsimp only at h
  split at h
  · cases h
  · rename_i a extra hread
    cases h
    have hsound := readAuthority_sound hread
    obtain ⟨segments, hpath, hsegments⟩ := exists_readPath kind _
    rw [hpath]
    by_cases hempty : a.host = .empty
    · obtain ⟨rfl, rfl⟩ := hsound.eq_local hempty
      exact .unserved nofun hsegments
    · exact .served hsound hempty (fun heq => absurd heq hfile) hsegments

theorem hierarchy_localFile (cs : List Char) :
    Hierarchy .file (some (localFile cs).1) (localFile cs).2 :=
  .unserved nofun (segment_of_mem_dropEmpty segment_of_mem_readSegments)

theorem hierarchy_remoteFile {host : Host} (h : host.Known) (cs : List Char) :
    Hierarchy .file (some (remoteFile host cs).1) (remoteFile host cs).2 := by
  have hsegments : ∀ s ∈ dropEmpty (readSegments .file cs), Segment s :=
    segment_of_mem_dropEmpty segment_of_mem_readSegments
  have hhost : host ≠ .empty := by
    rintro rfl
    cases h
  unfold remoteFile
  dsimp only
  split
  · exact .unserved nofun hsegments
  · exact .served ⟨nofun, nofun, .inl ⟨rfl, h⟩, nofun, fun _ => ⟨rfl, rfl⟩⟩ hhost
      (fun _ => ⟨rfl, rfl⟩) hsegments

theorem readFile_cases [DomainNames] {a : Authority} {path : Path}
    (h : readFile cs = .ok (a, path)) : Hierarchy .file (some a) path := by
  unfold readFile at h
  split at h
  · cases h
    exact hierarchy_localFile _
  · split at h
    · cases h
      exact hierarchy_localFile _
    · dsimp only at h
      split at h
      · cases h
        exact hierarchy_localFile _
      · split at h
        · cases h
        · rename_i hhost
          split at h
          · cases h
            exact hierarchy_localFile _
          · cases h
            exact hierarchy_remoteFile (readHost_known hhost) _

/-- **What is read for a kind of scheme.** -/
theorem readHierarchy_cases [DomainNames] {authority : Option Authority} {path : Path}
    (h : readHierarchy kind atEnd cs = .ok (authority, path)) : Hierarchy kind authority path := by
  cases kind with
  | file =>
    rw [readHierarchy_file] at h
    cases hread : readFile cs with
    | error e =>
      rw [hread] at h
      cases h
    | ok result =>
      rw [hread] at h
      cases h
      exact readFile_cases hread
  | network port => exact readServed_cases nofun (readHierarchy_network port atEnd cs ▸ h)
  | other =>
    by_cases hroot : (withoutBreaks cs).head? = some '/'
    · obtain ⟨rest, htext⟩ := List.head?_eq_some_iff.mp hroot
      by_cases hslashes : rest.head? = some '/'
      · obtain ⟨behind, rfl⟩ := List.head?_eq_some_iff.mp hslashes
        rw [readHierarchy_slashes htext] at h
        exact readServed_cases nofun h
      · rw [readHierarchy_slash htext hslashes] at h
        cases h
        exact .plain rfl (readSegments_ne_nil _ _) segment_of_mem_readSegments
    · rw [readHierarchy_unread hroot] at h
      cases h
      refine .unread rfl (fun _ hc => keeps_of_mem_encode hc) fun hhead => ?_
      cases htext : withoutBreaks cs with
      | nil =>
        rw [htext] at hhead
        cases hhead
      | cons c rest =>
        rw [htext] at hhead hroot
        rcases head?_encode .opaquePart c rest with hfirst | hfirst
        · rw [hfirst] at hhead
          exact hroot hhead
        · rw [hfirst] at hhead
          cases hhead

/-! ## A name behind the last slash -/

/-- A text in which a name stands behind the last slash and belongs to the path. -/
inductive Located (kind : Kind) (name : List Char) : List Char → Prop
  | near {c : Char} {behind : List Char} (hostless : kind.Hostless)
      (inside : kind.separates c = false) : Located kind name ('/' :: c :: (behind ++ '/' :: name))
  | unserved {behind : List Char} (hostless : kind.Hostless) :
      Located kind name ('/' :: '/' :: '/' :: (behind ++ '/' :: name))
  | served {a : Authority} {behind : List Char} (sound : a.Sound kind) (host : a.host ≠ .empty)
      (file : kind = .file → a.credentials = [] ∧ a.port = none) :
      Located kind name ('/' :: '/' :: (a.body ++ '/' :: (behind ++ '/' :: name)))

theorem separates_of_inAuthority {c : Char} (h : InAuthority c) : kind.separates c = false := by
  simp [Kind.separates, h.2.1, h.2.2]

theorem endsAuthority_of_inAuthority {c : Char} (h : InAuthority c) :
    kind.endsAuthority c = false := by
  rw [Kind.endsAuthority, separates_of_inAuthority h, endsPath_of_plain h.1]
  rfl

/-- What is in front of the first slash and what behind it. -/
theorem cut_slash {p : Char → Bool} (front : List Char) (h : ∀ c ∈ front, p c = false)
    (hslash : p '/' = true) (behind : List Char) :
    (front ++ '/' :: behind).takeWhile (fun c => !p c) = front ∧
      (front ++ '/' :: behind).dropWhile (fun c => !p c) = '/' :: behind := by
  have hfront : ∀ c ∈ front, (!p c) = true := by simpa using h
  rw [List.takeWhile_append_of_pos hfront, List.dropWhile_append_of_pos hfront]
  simp [hslash]

theorem getLast?_file (hname : Name name) (front : List Char) :
    (dropEmpty (readSegments .file (front ++ '/' :: name))).getLast? = some name :=
  getLast?_dropEmpty (List.ne_nil_of_length_pos (Nat.zero_lt_of_lt hname.long))
    (getLast?_readSegments hname .file front)

theorem behindSeparator?_slash (cs : List Char) : behindSeparator? ('/' :: cs) = some cs := rfl

theorem behindSeparator?_inside {c : Char} (hplain : Plain c)
    (hinside : Kind.separates .file c = false) : behindSeparator? (c :: cs) = none := by
  unfold behindSeparator?
  rw [List.dropWhile_cons, isBreak_of_le (Nat.le_of_lt hplain.1), if_neg Bool.false_ne_true]
  simp only [hinside, Bool.false_eq_true, if_false]

/-- A file whose path a host serves. -/
theorem readFile_served [DomainNames] {host : Host} (h : host.Known) (hname : Name name)
    (behind : List Char) :
    ∃ a segments,
      readFile ('/' :: '/' :: (host.chars ++ '/' :: (behind ++ '/' :: name))) =
        .ok (a, .segments segments) ∧ segments.getLast? = some name := by
  have hinside : ∀ c ∈ host.chars, InAuthority c := fun c hc => (h.text.mem hc).1
  have hbreaks : withoutBreaks host.chars = host.chars :=
    withoutBreaks_of_plain fun c hc => (hinside c hc).1
  obtain ⟨hfront, hbehind⟩ := cut_slash (p := Kind.separates .file) host.chars
    (fun c hc => separates_of_inAuthority (hinside c hc)) (separates_slash .file)
    (behind ++ '/' :: name)
  have hlast := getLast?_file hname behind
  rw [readFile, behindSeparator?_slash]
  simp only [behindSeparator?_slash, hfront, hbehind, hbreaks, readHost_chars h]
  split
  · refine ⟨localAuthority, _, rfl, ?_⟩
    have happend : host.chars ++ '/' :: (behind ++ '/' :: name) =
        (host.chars ++ '/' :: behind) ++ '/' :: name := by simp
    rw [happend]
    exact getLast?_file hname _
  · split
    · exact ⟨localAuthority, _, rfl, getLast?_file hname ('/' :: behind)⟩
    · exact ⟨_, _, rfl, hlast⟩

/-- A file in which a name stands behind the last slash. -/
theorem readFile_located [DomainNames] (h : Located .file name cs) (hplain : ∀ c ∈ cs, Plain c)
    (hname : Name name) :
    ∃ a segments, readFile cs = .ok (a, .segments segments) ∧ segments.getLast? = some name := by
  cases h with
  | @near c behind _ hinside =>
    refine ⟨localAuthority, _, ?_, getLast?_file hname (c :: behind)⟩
    have hc : Plain c := hplain c (by simp)
    rw [readFile, behindSeparator?_slash]
    simp only [behindSeparator?_inside hc hinside]
    rfl
  | @unserved behind _ =>
    refine ⟨localAuthority, _, ?_, getLast?_file hname ('/' :: behind)⟩
    rw [readFile, behindSeparator?_slash]
    rfl
  | @served a behind hsound hhost hfile =>
    obtain ⟨hcredentials, hport⟩ := hfile rfl
    have hbody : a.body = a.host.chars := by
      simp [Authority.body, Authority.portChars, hcredentials, hport]
    have hknown : a.host.Known := by
      rcases hsound.host with ⟨-, hknown⟩ | ⟨hspecial, -⟩
      · exact hknown
      · cases hspecial
    rw [hbody]
    exact readFile_served hknown hname behind

theorem endsAuthority_slash (kind : Kind) : kind.endsAuthority '/' = true := by
  rw [Kind.endsAuthority, separates_slash]
  rfl

theorem readServed_served [DomainNames] {a : Authority} (hsound : a.Sound kind)
    (hhost : a.host ≠ .empty) (hname : Name name) (atEnd : Bool) (behind : List Char) :
    ∃ segments, readServed kind atEnd (a.body ++ '/' :: (behind ++ '/' :: name)) =
      .ok (some a, .segments segments) ∧ segments.getLast? = some name := by
  obtain ⟨hfront, hbehind⟩ := cut_slash (p := kind.endsAuthority) a.body
    (fun c hc => endsAuthority_of_inAuthority (mem_body hsound hc)) (endsAuthority_slash kind)
    (behind ++ '/' :: name)
  refine ⟨_, ?_, getLast?_readSegments hname kind behind⟩
  unfold readServed
  simp only [hfront, hbehind, readAuthority_body hsound hhost, List.nil_append, readPath_slash]

/-- The slashes in front of a host. -/
theorem dropWhile_separates {a : Authority} (hsound : a.Sound kind) (hhost : a.host ≠ .empty)
    (behind : List Char) :
    ('/' :: '/' :: (a.body ++ behind)).dropWhile kind.separates = a.body ++ behind := by
  refine dropWhile_eq_iff.mpr ⟨['/', '/'], rfl, by simp [separates_slash], fun c hc => ?_⟩
  obtain ⟨d, rest, hbody⟩ :=
    List.exists_cons_of_ne_nil (fun hnil => hhost ((body_eq_nil_iff hsound).mp hnil))
  rw [hbody] at hc
  cases hc
  exact separates_of_inAuthority (mem_body hsound (by simp [hbody]))

/-- **A name behind the last slash is read as the last segment of a path.** -/
theorem readHierarchy_located [DomainNames] (h : Located kind name cs) (hplain : ∀ c ∈ cs, Plain c)
    (hname : Name name) (atEnd : Bool) :
    ∃ authority segments, readHierarchy kind atEnd cs = .ok (authority, .segments segments) ∧
      segments.getLast? = some name := by
  have hbreaks := withoutBreaks_of_plain hplain
  cases kind with
  | file =>
    obtain ⟨a, segments, hread, hlast⟩ := readFile_located h hplain hname
    exact ⟨some a, segments, by rw [readHierarchy_file, hread]; rfl, hlast⟩
  | network port =>
    cases h with
    | near hostless => exact absurd rfl (hostless port)
    | unserved hostless => exact absurd rfl (hostless port)
    | @served a behind hsound hhost _ =>
      obtain ⟨segments, hread, hlast⟩ := readServed_served hsound hhost hname atEnd behind
      refine ⟨some a, segments, ?_, hlast⟩
      rw [readHierarchy_network, hbreaks, dropWhile_separates hsound hhost, hread]
  | other =>
    cases h with
    | @near c behind _ hinside =>
      have hlast := getLast?_readSegments hname .other (c :: behind)
      refine ⟨none, _, readHierarchy_slash hbreaks ?_, hlast⟩
      rintro ⟨⟩
      cases hinside
    | @unserved behind _ =>
      refine ⟨some localAuthority, _, ?_, getLast?_readSegments hname .other behind⟩
      obtain ⟨hfront, hbehind⟩ := cut_slash (p := Kind.endsAuthority .other) [] nofun rfl
        (behind ++ '/' :: name)
      rw [List.nil_append] at hfront hbehind
      rw [readHierarchy_slashes hbreaks, readServed, hfront, hbehind, readAuthority_nil]
      rfl
    | @served a behind hsound hhost _ =>
      obtain ⟨segments, hread, hlast⟩ := readServed_served hsound hhost hname atEnd behind
      exact ⟨some a, segments, readHierarchy_slashes hbreaks ▸ hread, hlast⟩

/-! ## A place below a base -/

theorem last_of_body {a : Authority} (h : a.Sound kind) (hhost : a.host ≠ .empty) {c : Char}
    (hc : ('/' :: '/' :: a.body).getLast? = some c) : (c == '/') = false := by
  have hne : a.body ≠ [] := fun hnil => hhost ((body_eq_nil_iff h).mp hnil)
  rw [List.getLast?_cons_of_ne_nil (by simp), List.getLast?_cons_of_ne_nil hne] at hc
  simpa using (mem_body h (List.mem_of_getLast? hc)).2.1

/-- A directory and a name behind the first segment of a path. -/
theorem located_near (hostless : kind.Hostless) {c : Char} (inside : kind.separates c = false)
    (cs dir name : List Char) :
    Located kind name ('/' :: c :: (cs ++ '/' :: (dir ++ '/' :: name))) := by
  have happend : cs ++ '/' :: (dir ++ '/' :: name) = (cs ++ '/' :: dir) ++ '/' :: name := by simp
  rw [happend]
  exact .near hostless inside

/-- A directory and a name right behind a scheme. -/
theorem located_bare (hostless : kind.Hostless) {dir : List Char} (hdir : Name dir)
    (name : List Char) : Located kind name ('/' :: (dir ++ '/' :: name)) := by
  obtain ⟨c, rest, rfl⟩ :=
    List.exists_cons_of_ne_nil (List.ne_nil_of_length_pos (Nat.zero_lt_of_lt hdir.long))
  obtain ⟨⟨-, hslash, hback, -⟩, -⟩ := hdir.mem (List.mem_cons_self ..)
  exact .near hostless (by simp [Kind.separates, hslash, hback])

theorem front_some {u : Url} {a : Authority} (h : u.authority = some a) :
    u.front = '/' :: '/' :: a.body := by
  unfold front
  rw [h]
  exact a.chars_eq

theorem front_none {u : Url} (h : u.authority = none) :
    u.front = if u.path.startsEmpty then ['/', '.'] else [] := by
  unfold front
  rw [h]

/-- **A directory and a name below what was read**, without the slashes at its end. -/
theorem located_of_hierarchy {u : Url} (h : Hierarchy kind u.authority u.path)
    (hread : ∀ cs, u.path = .opaquePath cs → cs = []) {dir : List Char} (hdir : Name dir)
    (name : List Char) :
    Located kind name
      (dropEnd (· == '/') (u.front ++ u.path.chars) ++ '/' :: (dir ++ '/' :: name)) := by
  generalize hauthority : u.authority = authority at h
  generalize hpath : u.path = path at h hread ⊢
  cases h with
  | @served a segments hsound hhost hfile hsegments =>
    have hrooted := (rooted_segments hsegments).dropEnd (· == '/')
    obtain ⟨behind, hbehind⟩ := hrooted.behind dir name
    rw [front_some hauthority, dropEnd_behind (fun c hc => last_of_body hsound hhost hc),
      List.append_assoc, hbehind]
    exact .served hsound hhost hfile
  | @unserved segments hostless hsegments =>
    have hrooted := (rooted_segments hsegments).dropEnd (· == '/')
    obtain ⟨behind, hbehind⟩ := hrooted.behind dir name
    -- If the path has nothing but slashes, then the two in front of it are cut off with them.
    rw [front_some hauthority, dropEnd_append]
    split
    · exact located_bare hostless hdir name
    · rw [List.append_assoc, hbehind]
      exact .unserved hostless
  | @plain segments hother hne hsegments =>
    subst hother
    rw [front_none hauthority, hpath]
    obtain ⟨segment, rest, rfl⟩ := List.exists_cons_of_ne_nil hne
    cases segment with
    | nil =>
      cases rest with
      | nil => exact located_bare hostless_other hdir name
      | cons next rest =>
        -- The point between the slashes keeps them from being read as the start of an authority.
        have hlast : ∀ c, ['/', '.'].getLast? = some c → (c == '/') = false := by
          intro c hc
          cases hc
          decide
        have hempty : (Path.segments ([] :: next :: rest)).startsEmpty = true := rfl
        rw [hempty, if_pos rfl, dropEnd_behind hlast, List.append_assoc]
        exact located_near hostless_other (by decide) _ dir name
    | cons c segment =>
      have hslash : (c == '/') = false := by
        simpa using (hsegments (c :: segment) (by simp) c (by simp)).2
      have hlast : ∀ d, ['/', c].getLast? = some d → (d == '/') = false := by
        intro d hd
        cases hd
        exact hslash
      have hchars : (Path.segments ((c :: segment) :: rest)).chars =
          ['/', c] ++ (segment ++ (Path.segments rest).chars) := by
        simp [Path.chars]
      have hempty : (Path.segments ((c :: segment) :: rest)).startsEmpty = false := rfl
      rw [hempty, if_neg Bool.false_ne_true, List.nil_append, hchars, dropEnd_behind hlast,
        List.append_assoc]
      exact located_near hostless_other (by simp [Kind.separates, hslash, Kind.special]) _ dir name
  | @unread cs hother _ _ =>
    subst hother
    cases hread cs rfl
    rw [front_none hauthority, hpath]
    exact located_bare hostless_other hdir name

/-- The characters of an authority and of a path that was looked into. -/
theorem plain_of_hierarchy {u : Url} (h : Hierarchy kind u.authority u.path)
    (hread : ∀ cs, u.path = .opaquePath cs → cs = []) :
    ∀ c ∈ u.front ++ u.path.chars, Plain c := by
  generalize hauthority : u.authority = authority at h
  generalize hpath : u.path = path at h hread ⊢
  have hhidden : authority = none → ∀ c ∈ u.front, Plain c := by
    intro hnone
    rw [front_none (hauthority.trans hnone)]
    split
    · exact forall_mem_of_all (by decide)
    · exact nofun
  intro c hc
  rcases List.mem_append.mp hc with hfront | hc
  · cases h with
    | @served a segments hsound hhost hfile hsegments =>
      rw [front_some hauthority, List.mem_cons, List.mem_cons] at hfront
      rcases hfront with rfl | rfl | hfront
      · decide
      · decide
      · exact (mem_body hsound hfront).1
    | unserved =>
      rw [front_some hauthority] at hfront
      exact forall_mem_of_all (P := Plain) (by decide) c hfront
    | plain => exact hhidden rfl c hfront
    | unread => exact hhidden rfl c hfront
  · cases h with
    | served _ _ _ hsegments => exact (rooted_segments hsegments).plain c hc
    | unserved _ hsegments => exact (rooted_segments hsegments).plain c hc
    | plain _ _ hsegments => exact (rooted_segments hsegments).plain c hc
    | unread =>
      rw [hread _ rfl] at hc
      cases hc

end StatusRegistry.Url
