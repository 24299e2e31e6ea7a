import StatusRegistry.Proofs.Url.Reading
import StatusRegistry.Proofs.Uuid
import StatusRegistry.Service.Assignment

/-!
# Addresses of lists

A list is published under an address made from the base of a configuration and the identifier of the
list, and claims and documents refer into it with fragments.

* `Addressed`: the address of a list is a URL that ends in its identifier, and the fragments of what
  refers into it are the index and the word `list`;
* `Open`: a URL with nothing behind its path, and a path that leads further down;
* `addressed_iff`: lists are addressed iff the base is open, whatever its scheme;
* `tenant_not_addressed`: a base with a query is taken, and its lists are not addressed.
-/

set_option autoImplicit false

namespace StatusRegistry.Config

open Text Url

/-! ## What is published -/

/-- What the address of a list is for. -/
structure Addressed [DomainNames] (c : Config) (list : ListId) : Prop where
  /-- It is a URL that ends in the identifier of the list. -/
  url : ∃ u segments, parse (c.listUrl list) = .ok u ∧ u.query = none ∧ u.fragment = none ∧
    u.path = .segments segments ∧ segments.getLast? = some list.text.toList
  /-- A claim refers to its index. -/
  claim : ∀ e : StatusEntry, e.list = list → ∃ id u, (Service.claim c e).id = some id ∧
    parse id = .ok u ∧ u.fragment = some (decimal e.index.toNat)
  /-- A document refers to its subject. -/
  document : ∀ (l : StatusList) (issuer : Issuer), ∃ id u,
    (l.credential issuer (c.listUrl list)).subject.id = some id ∧
      parse id = .ok u ∧ u.fragment = some "list".toList

/-- A URL with nothing behind its path, which is looked into or empty. -/
structure Open (u : Url) : Prop where
  query : u.query = none
  fragment : u.fragment = none
  path : ∀ cs, u.path = .opaquePath cs → cs = []

/-! ## Texts -/

theorem withBaseUrl_eq_ok_iff [DomainNames] {c c' : Config} {text : String} :
    c.withBaseUrl text = .ok c' ↔
      ∃ u, parse text = .ok u ∧ c' = { c with baseUrl := baseOf u } := by
  unfold withBaseUrl readBase
  cases parse text with
  | error e => simp
  | ok u => simp [eq_comm]

/-- What stands behind the base in an address. -/
def place (list : ListId) : List Char := '/' :: ("status-lists".toList ++ '/' :: list.text.toList)

theorem toList_listUrl (c : Config) (list : ListId) :
    (c.listUrl list).toList = c.baseUrl.toList ++ place list := by
  simp [listUrl, place, String.toList_append]

theorem name_directory : Name "status-lists".toList := ⟨by decide, forall_mem_of_all (by decide)⟩

theorem name_text (list : ListId) : Name list.text.toList := by
  have hdigit : ∀ k : Fin 16, inScheme (digitChar k.val) = true ∧ digitChar k.val ≠ '.' := by decide
  unfold ListId.text
  rw [Uuid.toList_text]
  refine ⟨by rw [Uuid.length_groups]; decide, fun c hc => ?_⟩
  rcases Uuid.mem_groups hc with rfl | hc
  · decide
  · obtain ⟨d, hd, rfl⟩ := Uuid.exists_digit hc
    exact hdigit ⟨d, hd⟩

theorem plain_place (list : ListId) : ∀ c ∈ place list, Plain c := by
  intro c hc
  unfold place at hc
  simp only [List.mem_cons, List.mem_append] at hc
  rcases hc with rfl | hc | rfl | hc
  · decide
  · exact (name_directory.mem hc).1.1
  · decide
  · exact ((name_text list).mem hc).1.1

/-- An address ends visibly. -/
theorem last_of_place (cs : List Char) (list : ListId) {c : Char}
    (hc : (cs ++ place list).getLast? = some c) : 0x20 < c.toNat := by
  rw [List.getLast?_append] at hc
  cases hlast : (place list).getLast? with
  | none => simp [place] at hlast
  | some d =>
    rw [hlast] at hc
    cases hc
    exact (plain_place list c (List.mem_of_getLast? hlast)).1

theorem toList_baseOf {u : Url} :
    (baseOf u).toList = u.scheme ++ ':' :: dropEnd (· == '/')
      (u.front ++ u.path.chars ++ marked '?' u.query ++ marked '#' u.fragment) := by
  have hchars : u.chars = (u.scheme ++ [':']) ++
      (u.front ++ u.path.chars ++ marked '?' u.query ++ marked '#' u.fragment) := by
    simp [chars]
  have hlast : ∀ c, (u.scheme ++ [':']).getLast? = some c → (c == '/') = false := by
    intro c hc
    rw [List.getLast?_append] at hc
    cases hc
    decide
  rw [baseOf, String.toList_ofList, hchars, dropEnd_behind hlast]
  simp

/-! ## Open bases -/

/-- A reference below an open base: its path ends in the identifier of the list, and its fragment is
what stands behind the address. -/
theorem parse_reference [DomainNames] {c : Config} {text : String} {u : Url}
    (hu : parse text = .ok u) (hbase : c.baseUrl = baseOf u) (h : Open u) (list : ListId)
    (fragment : Option (List Char))
    (hfragment : ∀ f ∈ fragment, ∀ c ∈ f, Part.fragment.keeps c = true) :
    ∃ v segments, parse (c.listUrl list ++ String.ofList (marked '#' fragment)) = .ok v ∧
      v.query = none ∧ v.fragment = fragment ∧ v.path = .segments segments ∧
      segments.getLast? = some list.text.toList := by
  obtain ⟨hscheme, hhierarchy⟩ := parse_sound hu
  have hlocated := located_of_hierarchy hhierarchy h.path name_directory list.text.toList
  rw [← place] at hlocated
  have hplain : ∀ c ∈ dropEnd (· == '/') (u.front ++ u.path.chars) ++ place list, Plain c := by
    intro c hc
    rcases List.mem_append.mp hc with hc | hc
    · exact plain_of_hierarchy hhierarchy h.path c ((isPrefix_dropEnd _ _).mem hc)
    · exact plain_place list c hc
  have htext : c.listUrl list ++ String.ofList (marked '#' fragment) =
      String.ofList (u.scheme ++ ':' ::
        (dropEnd (· == '/') (u.front ++ u.path.chars) ++ place list ++ marked '#' fragment)) := by
    rw [← String.toList_inj, String.toList_append, toList_listUrl, hbase, toList_baseOf, h.query,
      h.fragment]
    simp [marked]
  rw [htext]
  exact parse_located hscheme hlocated hplain (name_text list) hfragment

/-- Below an open base lists are addressed. -/
theorem addressed_of_open [DomainNames] {c : Config} {text : String} {u : Url}
    (hu : parse text = .ok u) (hbase : c.baseUrl = baseOf u) (h : Open u) (list : ListId) :
    c.Addressed list := by
  have hdigits : ∀ n, ∀ c ∈ decimal n, Part.fragment.keeps c = true := fun n c hc =>
    forall_isDigit (P := fun c => Part.fragment.keeps c = true) (by decide)
      (isDigit_of_mem_decimal hc)
  constructor
  · obtain ⟨v, segments, hparse, hv⟩ :=
      parse_reference hu hbase h list none nofun
    have htext : c.listUrl list ++ String.ofList (marked '#' none) = c.listUrl list := by
      simp [marked]
    exact ⟨v, segments, htext ▸ hparse, hv⟩
  · rintro e rfl
    obtain ⟨v, segments, hparse, -, hfragment, -⟩ :=
      parse_reference hu hbase h e.list (some (decimal e.index.toNat))
        (by rintro _ ⟨⟩; exact hdigits _)
    have htext : c.listUrl e.list ++ String.ofList (marked '#' (some (decimal e.index.toNat))) =
        c.listUrl e.list ++ "#" ++ decimalText e.index.toNat := by
      simp [← String.toList_inj, marked, toList_decimalText]
    exact ⟨_, v, rfl, htext ▸ hparse, hfragment⟩
  · intro l issuer
    obtain ⟨v, segments, hparse, -, hfragment, -⟩ :=
      parse_reference hu hbase h list (some "list".toList)
        (by rintro _ ⟨⟩; exact forall_mem_of_all (by decide))
    have htext : c.listUrl list ++ String.ofList (marked '#' (some "list".toList)) =
        c.listUrl list ++ "#list" := by
      simp [marked]
    exact ⟨_, v, rfl, htext ▸ hparse, hfragment⟩

theorem ofList_listUrl {c : Config} {u : Url} (hbase : c.baseUrl = baseOf u) (list : ListId) :
    c.listUrl list = String.ofList (u.scheme ++ ':' :: (dropEnd (· == '/')
      (u.front ++ u.path.chars ++ marked '?' u.query ++ marked '#' u.fragment) ++ place list)) := by
  rw [← String.toList_inj, toList_listUrl, hbase, toList_baseOf]
  simp

/-- An address with neither a query nor a fragment is below a base with neither. -/
theorem unmarked_of_addressed [DomainNames] {c : Config} {u : Url} {list : ListId}
    (hbase : c.baseUrl = baseOf u) (h : c.Addressed list) : u.query = none ∧ u.fragment = none := by
  obtain ⟨v, segments, hv, hquery, hfragment, -, -⟩ := h.url
  have hunmarked := (unmarked_iff hv).mp ⟨hquery, hfragment⟩
  have hnone : ∀ c, endsPath c = true → (c == '/') = false →
      c ∉ u.front ++ u.path.chars ++ marked '?' u.query ++ marked '#' u.fragment := by
    intro d hsign hslash hd
    have hmem : d ∈ (c.listUrl list).toList := by
      rw [ofList_listUrl hbase, String.toList_ofList]
      exact List.mem_append_right _ (List.mem_cons_of_mem _
        (List.mem_append_left _ (mem_dropEnd hd hslash)))
    exact Bool.false_ne_true ((hunmarked d hmem).symm.trans hsign)
  constructor
  · rw [Option.eq_none_iff_forall_ne_some]
    intro q hq
    exact hnone '?' rfl rfl (by simp [hq, marked])
  · rw [Option.eq_none_iff_forall_ne_some]
    intro f hf
    exact hnone '#' rfl rfl (by simp [hf, marked])

/-- Lists are addressed below open bases only. -/
theorem open_of_addressed [DomainNames] {c : Config} {text : String} {u : Url} {list : ListId}
    (hu : parse text = .ok u) (hbase : c.baseUrl = baseOf u) (h : c.Addressed list) : Open u := by
  obtain ⟨hnoQuery, hnoFragment⟩ := unmarked_of_addressed hbase h
  refine ⟨hnoQuery, hnoFragment, fun cs hcs => ?_⟩
  obtain ⟨v, segments, hv, -, -, hsegments, -⟩ := h.url
  obtain ⟨hscheme, hhierarchy⟩ := parse_sound hu
  -- A path that is not looked into does not begin with a slash, so the base keeps its first
  -- character, and with it the path of an address is not looked into either.
  by_contra hne
  obtain ⟨d, rest, rfl⟩ := List.exists_cons_of_ne_nil hne
  generalize hauthority : u.authority = authority at hhierarchy
  rw [hcs] at hhierarchy
  cases hhierarchy with
  | unread hother hkeeps hroot =>
    have hslash : ∀ c, [d].getLast? = some c → (c == '/') = false := by
      intro c hc
      cases hc
      simpa using hroot
    have hdrop : dropEnd (· == '/') (u.front ++ u.path.chars ++ marked '?' u.query ++
        marked '#' u.fragment) = d :: dropEnd (· == '/') rest := by
      rw [hnoQuery, hnoFragment, hcs, front_none hauthority, hcs]
      have hsplit : dropEnd (· == '/') ([d] ++ rest) = [d] ++ dropEnd (· == '/') rest :=
        dropEnd_behind hslash
      simpa [Path.chars, Path.startsEmpty, marked] using hsplit
    have hchars : ∀ c ∈ d :: dropEnd (· == '/') rest ++ place list, 0x20 ≤ c.toNat := by
      have hblank : ∀ c ∈ d :: rest, 0x20 ≤ c.toNat := fun c hc =>
        forall_keeps (P := fun c => 0x20 ≤ c.toNat) (by decide) (hkeeps c hc)
      intro c hc
      rcases List.mem_append.mp hc with hc | hc
      · exact hblank c (((List.prefix_cons_inj d).mpr (isPrefix_dropEnd _ rest)).mem hc)
      · exact Nat.le_of_lt (plain_place list c hc).1
    have hfirst : (d :: dropEnd (· == '/') rest ++ place list).head? ≠ some '/' := hroot
    rw [ofList_listUrl hbase, hdrop] at hv
    obtain ⟨path, hpath⟩ :=
      parse_unread hscheme hother hfirst hchars (fun c hc => last_of_place _ list hc) hv
    rw [hpath] at hsegments
    cases hsegments

/-- **Lists are addressed iff the base is open.** Every other base is taken, too. -/
theorem addressed_iff [DomainNames] {c c' : Config} {text : String}
    (h : c.withBaseUrl text = .ok c') :
    ∃ u, parse text = .ok u ∧ ∀ list, c'.Addressed list ↔ Open u := by
  obtain ⟨u, hu, rfl⟩ := withBaseUrl_eq_ok_iff.mp h
  refine ⟨u, hu, fun list => ⟨open_of_addressed hu rfl, fun hopen => ?_⟩⟩
  exact addressed_of_open hu rfl hopen list

/-- A base with a name outside ASCII, a directory and slashes at its end. -/
theorem sample_addressed :
    Config.default.withBaseUrl "https://bücher.example/vc//" =
        .ok ⟨"https://xn--bcher-kva.example/vc", minCapacity, none⟩ ∧
      ∀ list, Addressed ⟨"https://xn--bcher-kva.example/vc", minCapacity, none⟩ list := by
  have hparse : parse "https://bücher.example/vc//" =
      .ok ⟨"https".toList, some ⟨[], [], .domain "xn--bcher-kva.example".toList, none⟩,
        .segments ["vc".toList, [], []], none, none⟩ := by
    decide +kernel
  have htaken : Config.default.withBaseUrl "https://bücher.example/vc//" =
      .ok ⟨"https://xn--bcher-kva.example/vc", minCapacity, none⟩ :=
    withBaseUrl_eq_ok_iff.mpr ⟨_, hparse, rfl⟩
  obtain ⟨u, hu, hiff⟩ := addressed_iff htaken
  cases hu.symm.trans hparse
  exact ⟨htaken, fun list => (hiff list).mpr ⟨rfl, rfl, nofun⟩⟩

/-- A base with a query: the place of a list becomes part of the query. -/
theorem tenant_not_addressed :
    Config.default.withBaseUrl "https://example.edu/?tenant=1" =
        .ok ⟨"https://example.edu/?tenant=1", minCapacity, none⟩ ∧
      ¬Addressed ⟨"https://example.edu/?tenant=1", minCapacity, none⟩ ⟨Uuid.nil⟩ := by
  refine ⟨rfl, fun h => ?_⟩
  obtain ⟨v, segments, hv, hquery, -⟩ := h.url
  have hparse : (parse (listUrl ⟨"https://example.edu/?tenant=1", minCapacity, none⟩
      ⟨Uuid.nil⟩)).toOption.bind Url.query =
        some "tenant=1/status-lists/00000000-0000-0000-0000-000000000000".toList := by
    decide +kernel
  rw [hv] at hparse
  cases hquery.symm.trans hparse

end StatusRegistry.Config
