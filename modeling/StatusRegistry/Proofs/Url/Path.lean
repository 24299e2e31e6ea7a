import StatusRegistry.Proofs.Text.Ends
import StatusRegistry.Proofs.Url.Host

/-!
# Paths read back

The segments that a text writes, and the last one of them.

* `Name`: a segment that every path keeps as it is (`Name.pushSegment`);
* `getLast?_readSegments`: a name at the end of a text is the last segment;
* `Segment`: what a segment is that was read (`segment_of_mem_readSegments`);
* `Rooted`: the texts of paths, also without slashes at the end.
-/

set_option autoImplicit false

namespace StatusRegistry.Url

open Text

/-! ## Names -/

/-- What is so of every character of ASCII that may stand in a scheme. -/
theorem forall_inScheme {P : Char → Prop}
    (h : ∀ k : Fin 127, inScheme (Char.ofNat k.val) = true → P (Char.ofNat k.val)) {c : Char}
    (hc : inScheme c = true) : P c := by
  have hlt : c.toNat < 127 := by
    simp only [inScheme, isLetter, isDigit, Bool.or_eq_true, Bool.and_eq_true, decide_eq_true_eq,
      beq_iff_eq] at hc
    rcases hc with (((((⟨-, hle⟩ | ⟨-, hle⟩) | ⟨-, hle⟩) | rfl) | rfl) | rfl)
    · exact Nat.lt_of_le_of_lt hle (by decide)
    · exact Nat.lt_of_le_of_lt hle (by decide)
    · exact Nat.lt_of_le_of_lt hle (by decide)
    · decide
    · decide
    · decide
  have hk := h ⟨c.toNat, hlt⟩
  simp only [Char.ofNat_toNat] at hk
  exact hk hc

/-- A segment of three characters or more, none of which is a point or has a meaning of its own. -/
structure Name (cs : List Char) : Prop where
  long : 2 < cs.length
  chars : ∀ c ∈ cs, inScheme c = true ∧ c ≠ '.'

namespace Name

variable {name : List Char}

theorem mem (h : Name name) {c : Char} (hc : c ∈ name) :
    (Plain c ∧ c ≠ '/' ∧ c ≠ '\\' ∧ c ≠ ':') ∧ Part.path.keeps c = true ∧
      lowerAscii c ≠ '.' ∧ lowerAscii c ≠ '%' := by
  obtain ⟨hscheme, hpoint⟩ := h.chars c hc
  exact forall_inScheme (P := fun c => c ≠ '.' → (Plain c ∧ c ≠ '/' ∧ c ≠ '\\' ∧ c ≠ ':') ∧
    Part.path.keeps c = true ∧ lowerAscii c ≠ '.' ∧ lowerAscii c ≠ '%') (by decide) hscheme hpoint

theorem withoutBreaks (h : Name name) : withoutBreaks name = name :=
  withoutBreaks_of_plain fun _ hc => (h.mem hc).1.1

/-- A name is no segment of dots. -/
theorem not_dots (h : Name name) : isDot name = false ∧ isDoubleDot name = false := by
  have hne : ∀ s : String, s.toList.head? = some '.' ∨ s.toList.head? = some '%' →
      (String.ofList (name.map lowerAscii) == s) = false := by
    intro s hs
    rw [beq_eq_false_iff_ne]
    rintro rfl
    rw [String.toList_ofList, List.head?_map, Option.map_eq_some_iff, Option.map_eq_some_iff] at hs
    rcases hs with ⟨c, hhead, hc⟩ | ⟨c, hhead, hc⟩
    · exact (h.mem (List.mem_of_mem_head? hhead)).2.2.1 hc
    · exact (h.mem (List.mem_of_mem_head? hhead)).2.2.2 hc
  constructor
  · simp only [isDot, hne "." (.inl rfl), hne "%2e" (.inr rfl), Bool.or_false]
  · simp only [isDoubleDot, hne ".." (.inl rfl), hne ".%2e" (.inl rfl), hne "%2e." (.inr rfl),
      hne "%2e%2e" (.inr rfl), Bool.or_false]

theorem cutDrive? (h : Name name) : cutDrive? name = none := by
  unfold Url.cutDrive?
  rw [h.withoutBreaks]
  split
  · exact absurd rfl (h.mem (List.mem_cons_of_mem _ (List.mem_cons_self ..))).1.2.2.2
  · rfl

/-- A path keeps a name as it is. -/
theorem pushSegment (h : Name name) (kind : Kind) (last : Bool) (before : List (List Char)) :
    pushSegment kind last before name = name :: before := by
  obtain ⟨hdot, hdouble⟩ := h.not_dots
  have hkept : encode .path name = name := encode_kept fun c hc => (h.mem hc).2.1
  unfold Url.pushSegment
  rw [h.cutDrive?, h.withoutBreaks]
  dsimp only
  rw [hdot, hdouble, if_neg Bool.false_ne_true, if_neg Bool.false_ne_true]
  rw [hkept]
  split
  · rename_i heq
    cases heq
  · split
    · exact absurd h.long (by simp)
    · rfl

end Name

theorem separates_slash (kind : Kind) : kind.separates '/' = true := by simp [Kind.separates]

/-- The last segment is added behind all others. -/
theorem pushSegments_append (kind : Kind) (before parts : List (List Char)) (segment : List Char) :
    ∃ before', pushSegments kind before (parts ++ [segment]) =
      pushSegment kind true before' segment := by
  induction parts generalizing before with
  | nil => exact ⟨before, rfl⟩
  | cons part parts ih =>
    obtain ⟨before', h⟩ := ih (pushSegment kind false before part)
    refine ⟨before', ?_⟩
    rw [← h]
    cases parts <;> rfl

/-- **A name behind the last slash is the last segment.** -/
theorem getLast?_readSegments {name : List Char} (h : Name name) (kind : Kind) (front : List Char) :
    (readSegments kind (front ++ '/' :: name)).getLast? = some name := by
  have hnone : ∀ c ∈ name, kind.separates c = false := by
    intro c hc
    obtain ⟨⟨-, hslash, hback, -⟩, -⟩ := h.mem hc
    simp [Kind.separates, hslash, hback]
  obtain ⟨before, hbefore⟩ := pushSegments_append kind [] (splitOn kind.separates front) name
  rw [readSegments, splitOn_append (separates_slash kind), splitOn_of_none hnone, hbefore,
    h.pushSegment, List.getLast?_reverse]
  rfl

/-! ## Segments -/

/-- A segment as it stands in a path. -/
def Segment (cs : List Char) : Prop := ∀ c ∈ cs, Plain c ∧ c ≠ '/'

theorem segment_encode {cs : List Char} (h : '/' ∉ cs) : Segment (encode .path cs) := by
  intro c hc
  rcases mem_encode hc with ⟨hmem, hkeeps⟩ | hescape
  · exact ⟨forall_keeps (P := Plain) (by decide) hkeeps, fun heq => h (heq ▸ hmem)⟩
  · exact forall_mem_of_all (P := fun c => Plain c ∧ c ≠ '/') (by decide) c hescape

theorem segment_drive {c : Char} (h : isLetter c = true) : Segment [c, ':'] := by
  have hscheme : inScheme c = true := by simp [inScheme, h]
  intro d hd
  simp only [List.mem_cons, List.not_mem_nil, or_false] at hd
  rcases hd with rfl | rfl
  · exact forall_inScheme (P := fun c => Plain c ∧ c ≠ '/') (by decide) hscheme
  · decide

theorem cutDrive?_eq_some {segment drive rest : List Char}
    (h : cutDrive? segment = some (drive, rest)) :
    (∃ c, isLetter c = true ∧ drive = [c, ':']) ∧ ∀ c ∈ rest, c ∈ segment := by
  unfold cutDrive? at h
  split at h
  · rename_i c d others b behind hplain hbehind
    split at h
    · rename_i hdrive
      cases h
      refine ⟨⟨c, (Bool.and_eq_true _ _ ▸ hdrive).1, rfl⟩, fun e he => ?_⟩
      have hmem : e ∈ withoutBreaks segment := by
        rw [hplain]
        exact List.mem_cons_of_mem _ (List.mem_cons_of_mem _ he)
      exact (List.mem_filter.mp hmem).1
    · cases h
  · cases h

theorem mem_dropSegment {before : List (List Char)} {s : List Char} (h : s ∈ dropSegment before) :
    s ∈ before := by
  unfold dropSegment at h
  split at h
  · exact h
  · split at h
    · exact h
    · exact List.mem_cons_of_mem _ h

/-- The segments of a path that ends behind a place. -/
theorem segment_close {last : Bool} {before : List (List Char)} (h : ∀ s ∈ before, Segment s) :
    ∀ s ∈ (if last then [] :: before else before), Segment s := by
  split
  · exact List.forall_mem_cons.mpr ⟨nofun, h⟩
  · exact h

theorem segment_of_mem_pushSegment {kind : Kind} {last : Bool} {before : List (List Char)}
    {segment : List Char} (hslash : '/' ∉ segment) (hbefore : ∀ s ∈ before, Segment s) :
    ∀ s ∈ pushSegment kind last before segment, Segment s := by
  have hplain : '/' ∉ withoutBreaks segment := fun hmem => hslash (List.mem_filter.mp hmem).1
  unfold pushSegment
  dsimp only
  split
  · rename_i drive rest hcut
    obtain ⟨⟨c, hc, rfl⟩, hrest⟩ := cutDrive?_eq_some hcut
    have hencoded : Segment (encode .path rest) := segment_encode fun hmem => hslash (hrest _ hmem)
    exact List.forall_mem_cons.mpr ⟨hencoded, List.forall_mem_singleton.mpr (segment_drive hc)⟩
  · split
    · exact segment_close fun s hs => hbefore s (mem_dropSegment hs)
    · split
      · exact segment_close hbefore
      · split
        · rename_i c d heq
          split
          · rename_i hdrive
            simp only [isDrive, Bool.and_eq_true] at hdrive
            exact List.forall_mem_singleton.mpr (segment_drive hdrive.1)
          · exact List.forall_mem_singleton.mpr (segment_encode hplain)
        · exact List.forall_mem_cons.mpr ⟨segment_encode hplain, hbefore⟩

theorem segment_of_mem_pushSegments {kind : Kind} {before parts : List (List Char)}
    (hparts : ∀ s ∈ parts, '/' ∉ s) (hbefore : ∀ s ∈ before, Segment s) :
    ∀ s ∈ pushSegments kind before parts, Segment s := by
  induction parts generalizing before with
  | nil => exact hbefore
  | cons part parts ih =>
    have hpart := hparts part (List.mem_cons_self ..)
    cases parts with
    | nil => exact segment_of_mem_pushSegment hpart hbefore
    | cons next parts =>
      exact ih (fun s hs => hparts s (List.mem_cons_of_mem _ hs))
        (segment_of_mem_pushSegment hpart hbefore)

/-- **Every segment that is read is one.** -/
theorem segment_of_mem_readSegments {kind : Kind} {cs : List Char} :
    ∀ s ∈ readSegments kind cs, Segment s := by
  intro s hs
  have hparts : ∀ part ∈ splitOn kind.separates cs, '/' ∉ part := by
    intro part hpart hslash
    have hnone := (mem_splitOn hpart hslash).2
    simp [Kind.separates] at hnone
  exact segment_of_mem_pushSegments hparts (by simp) s (List.mem_reverse.mp hs)

theorem pushSegment_ne_nil (kind : Kind) (before : List (List Char)) (segment : List Char) :
    pushSegment kind true before segment ≠ [] := by
  unfold pushSegment
  dsimp only
  split
  · simp
  · split
    · simp
    · split
      · simp
      · split
        · split <;> simp
        · simp

/-- A text has one segment at least. -/
theorem readSegments_ne_nil (kind : Kind) (cs : List Char) : readSegments kind cs ≠ [] := by
  obtain ⟨parts, part, hparts⟩ :=
    (List.eq_nil_or_concat _).resolve_left (splitOn_ne_nil kind.separates cs)
  obtain ⟨before, hbefore⟩ := pushSegments_append kind [] parts part
  rw [readSegments, hparts, List.concat_eq_append, hbefore, ne_eq, List.reverse_eq_nil_iff]
  exact pushSegment_ne_nil kind before part

/-! ## Files without empty segments in front -/

theorem segment_of_mem_dropEmpty {segments : List (List Char)} (h : ∀ s ∈ segments, Segment s) :
    ∀ s ∈ dropEmpty segments, Segment s := by
  unfold dropEmpty
  split
  · exact List.forall_mem_singleton.mpr nofun
  · exact fun s hs => h s ((List.dropWhile_sublist _).mem hs)

theorem getLast?_dropEmpty {segments : List (List Char)} {name : List Char} (hname : name ≠ [])
    (h : segments.getLast? = some name) : (dropEmpty segments).getLast? = some name := by
  obtain ⟨front, rfl⟩ := List.getLast?_eq_some_iff.mp h
  have hkept : List.isEmpty name = false := by simpa using hname
  have hdrop : (front ++ [name]).dropWhile List.isEmpty =
      front.dropWhile List.isEmpty ++ [name] := by
    rw [List.dropWhile_append]
    split
    · rename_i hempty
      rw [List.isEmpty_iff.mp hempty, List.dropWhile_cons, hkept, if_neg Bool.false_ne_true]
      rfl
    · rfl
  unfold dropEmpty
  rw [hdrop]
  split
  · rename_i heq
    exact absurd heq (by simp)
  · rename_i heq
    rw [List.getLast?_append]
    rfl

/-! ## Texts of paths -/

/-- The text of a path, also with slashes at the end taken away: nothing, or a slash and more. -/
structure Rooted (cs : List Char) : Prop where
  plain : ∀ c ∈ cs, Plain c
  root : ∀ c, cs.head? = some c → c = '/'

theorem rooted_segments {segments : List (List Char)} (h : ∀ s ∈ segments, Segment s) :
    Rooted (Path.segments segments).chars := by
  constructor
  · intro c hc
    obtain ⟨s, hs, hc⟩ := List.mem_flatMap.mp hc
    rcases List.mem_cons.mp hc with rfl | hc
    · decide
    · exact (h s hs c hc).1
  · intro c hc
    cases segments with
    | nil => cases hc
    | cons s segments =>
      cases hc
      rfl

theorem Rooted.dropEnd {cs : List Char} (h : Rooted cs) (p : Char → Bool) :
    Rooted (dropEnd p cs) := by
  have hfront := isPrefix_dropEnd p cs
  refine ⟨fun c hc => h.plain c (hfront.mem hc), fun c hc => h.root c ?_⟩
  obtain ⟨back, hback⟩ := hfront
  rw [← hback, List.head?_append, hc]
  rfl

/-- Behind the text of a path a name stands after a slash. -/
theorem Rooted.behind {cs : List Char} (h : Rooted cs) (front name : List Char) :
    ∃ behind, cs ++ '/' :: (front ++ '/' :: name) = '/' :: (behind ++ '/' :: name) := by
  cases cs with
  | nil => exact ⟨front, rfl⟩
  | cons c cs =>
    cases h.root c rfl
    exact ⟨cs ++ '/' :: front, by simp⟩

theorem readPath_slash (kind : Kind) (cs : List Char) :
    readPath kind ('/' :: cs) = .segments (readSegments kind cs) := by
  rw [readPath, if_pos (separates_slash kind)]

theorem exists_readPath (kind : Kind) (cs : List Char) :
    ∃ segments, readPath kind cs = .segments segments ∧ ∀ s ∈ segments, Segment s := by
  unfold readPath
  split
  · refine ⟨_, rfl, ?_⟩
    split
    · exact List.forall_mem_singleton.mpr nofun
    · exact nofun
  · exact ⟨_, rfl, segment_of_mem_readSegments⟩

end StatusRegistry.Url
