import Mathlib.Algebra.GroupWithZero.Nat
import StatusRegistry.Proofs.Url.Percent

/-!
# Hosts read back

A host that was read is read again from its text: names, addresses of 32 and of 128 bits, and the
hosts of schemes whose structure is not known.

* `splitOn_append`, `mem_splitOn`: the parts of a text between separators;
* `Host.Known`, `Host.Unknown`: the hosts that can be read, of schemes whose structure is known and
  of others;
* `readHost_known`, `readOpaqueHost_cases`: every host that is read is one;
* `readHost_chars`, `readOpaqueHost_chars`: and it is read back from its text.
-/

set_option autoImplicit false

namespace StatusRegistry.Url

open Text

/-! ## Parts between separators -/

section Splitting

variable {separator : Char → Bool} {cs front back part : List Char} {c : Char}

theorem splitOn_ne_nil (separator : Char → Bool) (cs : List Char) : splitOn separator cs ≠ [] := by
  cases cs with
  | nil => simp [splitOn]
  | cons c cs =>
    unfold splitOn
    split
    · simp
    · split <;> simp

/-- A character that is no separator belongs to the first part. -/
theorem splitOn_cons (cs : List Char) (hc : separator c = false) :
    ∃ first others, splitOn separator cs = first :: others ∧
      splitOn separator (c :: cs) = (c :: first) :: others := by
  obtain ⟨first, others, hparts⟩ := List.exists_cons_of_ne_nil (splitOn_ne_nil separator cs)
  refine ⟨first, others, hparts, ?_⟩
  rw [splitOn, hc, if_neg Bool.false_ne_true, hparts]

theorem splitOn_separator (hc : separator c = true) :
    splitOn separator (c :: cs) = [] :: splitOn separator cs := by
  rw [splitOn, if_pos hc]

theorem splitOn_of_none (h : ∀ c ∈ cs, separator c = false) : splitOn separator cs = [cs] := by
  induction cs with
  | nil => rfl
  | cons c cs ih =>
    have hcs := ih fun d hd => h d (List.mem_cons_of_mem c hd)
    obtain ⟨first, others, hparts, hcons⟩ := splitOn_cons cs (h c (List.mem_cons_self ..))
    rw [hcs] at hparts
    cases hparts
    exact hcons

/-- A separator cuts a text in two. -/
theorem splitOn_append (hc : separator c = true) :
    splitOn separator (front ++ c :: back) = splitOn separator front ++ splitOn separator back := by
  induction front with
  | nil => exact splitOn_separator hc
  | cons d front ih =>
    cases hd : separator d with
    | true =>
      rw [List.cons_append, splitOn_separator hd, splitOn_separator hd, ih]
      rfl
    | false =>
      obtain ⟨first, others, hparts, hcons⟩ := splitOn_cons front hd
      obtain ⟨first', others', hparts', hcons'⟩ := splitOn_cons (front ++ c :: back) hd
      rw [ih, hparts] at hparts'
      cases hparts'
      rw [List.cons_append, hcons', hcons]
      rfl

theorem mem_splitOn (hpart : part ∈ splitOn separator cs) (hc : c ∈ part) :
    c ∈ cs ∧ separator c = false := by
  induction cs generalizing part with
  | nil =>
    simp only [splitOn, List.mem_singleton] at hpart
    subst hpart
    cases hc
  | cons d cs ih =>
    cases hd : separator d with
    | true =>
      rw [splitOn_separator hd] at hpart
      rcases List.mem_cons.mp hpart with rfl | hpart
      · cases hc
      · exact (ih hpart hc).imp_left (List.mem_cons_of_mem d)
    | false =>
      obtain ⟨first, others, hparts, hcons⟩ := splitOn_cons cs hd
      rw [hparts] at ih
      rw [hcons] at hpart
      rcases List.mem_cons.mp hpart with rfl | hpart
      · rcases List.mem_cons.mp hc with rfl | hc
        · exact ⟨List.mem_cons_self .., hd⟩
        · exact (ih (List.mem_cons_self ..) hc).imp_left (List.mem_cons_of_mem d)
      · exact (ih (List.mem_cons_of_mem _ hpart) hc).imp_left (List.mem_cons_of_mem d)

end Splitting

/-! ## Names -/

/-- What is asked of a name in ASCII, before its labels are looked at. -/
structure AsciiName (name : List Char) : Prop where
  allowed : ∀ c ∈ name, forbiddenInDomain c = false
  lower : name.map lowerAscii = name
  sound : areSound (splitOn (· == '.') name) = true

/-- What a domain name is. -/
structure DomainName (name : List Char) : Prop extends AsciiName name where
  ne_nil : name ≠ []
  no_number : endsInNumber name = false

theorem asciiName?_self_iff {name : List Char} : asciiName? name = some name ↔ AsciiName name := by
  rw [asciiName?_eq_some_iff]
  exact ⟨fun ⟨hlower, hallowed, hsound⟩ => ⟨hallowed, hlower.symm, hsound⟩,
    fun h => ⟨h.lower.symm, h.allowed, h.sound⟩⟩

/-- **Every name that is read is one in ASCII**, whatever names are mapped to. -/
theorem readName?_ascii [DomainNames] {bytes : List UInt8} {name : List Char}
    (h : readName? bytes = some name) : AsciiName name := by
  unfold readName? at h
  split at h
  · exact asciiName?_self_iff.mp (asciiName?_idem h)
  · exact asciiName?_self_iff.mp (DomainNames.stable h)

/-- A text that does not begin with a bracket is read as a name. -/
theorem readHost_name [DomainNames] {cs : List Char} (hbracket : cs.head? ≠ some '[') :
    readHost cs =
      match readName? (decode cs) with
      | none => .error .invalidDomain
      | some name =>
        if name.isEmpty then .error .emptyHost
        else if endsInNumber name then readIpv4 name
        else .ok (.domain name) := by
  unfold readHost
  split
  · exact absurd rfl hbracket
  · rfl

theorem plain_of_allowed {c : Char} (h : forbiddenInDomain c = false) : Plain c := by
  simp only [forbiddenInDomain, Bool.or_eq_false_iff, decide_eq_false_iff_not] at h
  obtain ⟨⟨hlow, hhigh⟩, hothers⟩ := h
  refine ⟨by omega, by omega, ?_⟩
  rw [← Bool.not_eq_true]
  intro hends
  simp only [endsPath, Bool.or_eq_true, beq_iff_eq] at hends
  rcases hends with rfl | rfl
  · exact absurd hothers (by decide)
  · exact absurd hothers (by decide)

theorem ne_of_allowed {c d : Char} (h : forbiddenInDomain c = false)
    (hd : forbiddenInDomain d = true) : c ≠ d := by
  rintro rfl
  rw [h] at hd
  cases hd

/-- A name in ASCII is read as the name that it is. -/
theorem AsciiName.readName? [DomainNames] {name : List Char} (h : AsciiName name) :
    name.head? ≠ some '[' ∧ Url.readName? (decode name) = some name := by
  have hascii : ∀ c ∈ name, c ≠ '%' ∧ c.toNat < 0x80 := by
    intro c hc
    have hplain := plain_of_allowed (h.allowed c hc)
    exact ⟨ne_of_allowed (h.allowed c hc) (by decide), Nat.lt_succ_of_lt hplain.2.1⟩
  constructor
  · intro hhead
    exact ne_of_allowed (h.allowed _ (List.mem_of_mem_head? hhead)) (by decide) rfl
  · have hback : (name.map fun c => UInt8.ofNat c.toNat).map (fun b => Char.ofNat b.toNat) =
        name := by
      rw [List.map_map]
      refine (List.map_congr_left fun c hc => ?_).trans (List.map_id name)
      have hlt := (hascii c hc).2
      rw [Function.comp_apply, UInt8.toNat_ofNat_of_lt' (Nat.lt_trans hlt (by decide)),
        Char.ofNat_toNat]
      rfl
    have hall : (name.map fun c => UInt8.ofNat c.toNat).all (· < 0x80) = true := by
      simp only [List.all_map, List.all_eq_true, Function.comp_apply, decide_eq_true_eq]
      intro c hc
      have hlt := (hascii c hc).2
      rw [UInt8.lt_iff_toNat_lt, UInt8.toNat_ofNat_of_lt' (Nat.lt_trans hlt (by decide))]
      exact hlt
    rw [decode_of_ascii hascii, Url.readName?, if_pos hall, hback, asciiName?_self_iff.mpr h]

theorem readHost_domain [DomainNames] {name : List Char} (h : DomainName name) :
    readHost name = .ok (.domain name) := by
  obtain ⟨hbracket, hname⟩ := h.toAsciiName.readName?
  have hempty : name.isEmpty = false := List.isEmpty_eq_false_iff.mpr h.ne_nil
  rw [readHost_name hbracket, hname]
  simp only [hempty, h.no_number, Bool.false_eq_true, if_false]

/-! ## Addresses of 32 bits -/

theorem forall_isDigit {P : Char → Prop} (h : ∀ k : Fin 10, P (Char.ofNat (48 + k.val))) {c : Char}
    (hc : isDigit c = true) : P c := by
  simp only [isDigit, Bool.and_eq_true, decide_eq_true_eq, Char.le_def,
    UInt32.le_iff_toNat_le] at hc
  obtain ⟨hlow, hhigh⟩ := hc
  change 48 ≤ c.toNat at hlow
  change c.toNat ≤ 57 at hhigh
  have hk := h ⟨c.toNat - 48, by omega⟩
  have hn : 48 + (c.toNat - 48) = c.toNat := by omega
  simpa only [hn, Char.ofNat_toNat] using hk

theorem allowed_of_isDigit {c : Char} (h : isDigit c = true) : forbiddenInDomain c = false :=
  forall_isDigit (P := fun c => forbiddenInDomain c = false) (by decide) h

theorem direction_of_isDigit {c : Char} (h : isDigit c = true) :
    direction c ≠ .right ∧ direction c ≠ .arabicNumber :=
  forall_isDigit (P := fun c => direction c ≠ .right ∧ direction c ≠ .arabicNumber)
    (by decide +kernel) h

theorem lowerAscii_of_isDigit {c : Char} (h : isDigit c = true) : lowerAscii c = c :=
  forall_isDigit (P := fun c => lowerAscii c = c) (by decide) h

/-- Labels of digits stand for themselves, and nothing in them is written from right to left. -/
theorem areSound_digits {labels : List (List Char)} (h : ∀ label ∈ labels, ∀ c ∈ label,
    isDigit c = true) : areSound labels = true := by
  have hplain : ∀ label ∈ labels, labelText? label = some label := by
    intro label hlabel
    apply labelText?_plain
    intro hmark
    have hx : 'x' ∈ label.take 4 := by
      rw [hmark]
      decide
    exact absurd (h label hlabel 'x' (List.mem_of_mem_take hx)) (by decide)
  refine @areSound_left labels labels ?_ ?_
  · clear h
    induction labels with
    | nil => rfl
    | cons label labels ih =>
      rw [List.mapM_cons, hplain label (List.mem_cons_self ..),
        ih fun l hl => hplain l (List.mem_cons_of_mem label hl)]
      rfl
  · intro label hlabel
    unfold hasRight
    rw [List.any_eq_false]
    intro c hc
    obtain ⟨hright, harabic⟩ := direction_of_isDigit (h label hlabel c hc)
    simp [hright, harabic]

/-- A number is written without zeros in front. -/
theorem digitsRev_lead {base : Nat} (hb : 2 ≤ base) {n : Nat} (hn : 0 < n) :
    ∃ rest d, 0 < d ∧ d < base ∧ digitsRev base hb n = rest ++ [digitChar d] := by
  induction n using Nat.strongRecOn with
  | ind n ih =>
    rw [digitsRev]
    split
    · rename_i hlt
      exact ⟨[], n, hn, hlt, rfl⟩
    · rename_i hge
      obtain ⟨rest, d, hpos, hd, heq⟩ := ih (n / base) (Nat.div_lt_self hn hb)
        (Nat.div_pos (Nat.le_of_not_lt hge) (by omega))
      exact ⟨digitChar (n % base) :: rest, d, hpos, hd, by rw [heq]; rfl⟩

theorem ipv4Number?_decimal (n : Nat) : ipv4Number? (decimal n) = some n := by
  have hvalue := value?_decimal n
  rcases Nat.eq_zero_or_pos n with rfl | hpos
  · have hzero : decimal 0 = ['0'] := by
      rw [decimal, digitsRev]
      rfl
    rw [hzero]
    rfl
  · obtain ⟨rest, d, hd, hlt, heq⟩ := digitsRev_lead (by decide : 2 ≤ 10) hpos
    have hlead : digitChar d ≠ '0' := by
      have : ∀ k : Fin 10, 0 < k.val → digitChar k.val ≠ '0' := by decide
      exact this ⟨d, hlt⟩ hd
    have hdecimal : decimal n = digitChar d :: rest.reverse := by
      rw [decimal, heq]
      simp
    rw [hdecimal] at hvalue ⊢
    unfold ipv4Number?
    split
    · rename_i h; cases h
    · rename_i h; exact absurd (List.cons.inj h).1 hlead
    · rename_i h; exact absurd (List.cons.inj h).1 hlead
    · rename_i h; exact absurd (List.cons.inj h).1 hlead
    · exact hvalue

/-- The labels of four numbers. -/
theorem splitOn_ipv4Text (address : Nat) :
    splitOn (· == '.') (ipv4Text address) =
      [decimal (address / 16777216 % 256), decimal (address / 65536 % 256),
        decimal (address / 256 % 256), decimal (address % 256)] := by
  have hpoint : ∀ n, splitOn (· == '.') (decimal n) = [decimal n] := by
    intro n
    apply splitOn_of_none
    intro c hc
    exact forall_isDigit (P := fun c => (c == '.') = false) (by decide) (isDigit_of_mem_decimal hc)
  simp only [ipv4Text, List.append_assoc, List.cons_append]
  rw [splitOn_append rfl, splitOn_append rfl, splitOn_append rfl]
  simp only [hpoint, List.cons_append, List.nil_append]

/-- A character of an address of 32 bits. -/
theorem mem_ipv4Text {address : Nat} {c : Char} (h : c ∈ ipv4Text address) :
    isDigit c = true ∨ c = '.' := by
  simp only [ipv4Text, List.mem_append, List.mem_cons] at h
  rcases h with ((h | h | h) | h | h) | h | h
  · exact .inl (isDigit_of_mem_decimal h)
  · exact .inr h
  · exact .inl (isDigit_of_mem_decimal h)
  · exact .inr h
  · exact .inl (isDigit_of_mem_decimal h)
  · exact .inr h
  · exact .inl (isDigit_of_mem_decimal h)

theorem labels_ipv4Text (address : Nat) :
    labels (ipv4Text address) =
      [decimal (address / 16777216 % 256), decimal (address / 65536 % 256),
        decimal (address / 256 % 256), decimal (address % 256)] := by
  unfold labels
  rw [splitOn_ipv4Text]
  refine if_neg ?_
  rintro ⟨-, hlast⟩
  exact absurd (Option.some.inj hlast) (decimal_ne_nil _)

theorem ipv4OfNumbers?_bytes {a b c d : Nat} (ha : a < 256) (hb : b < 256) (hc : c < 256)
    (hd : d < 256) : ipv4OfNumbers? [a, b, c, d] = some (((a * 256 + b) * 256 + c) * 256 + d) := by
  have hall : [c, b, a].all (· < 256) = true := by simp [ha, hb, hc]
  have hroom : [c, b, a].length < 4 ∧ d < Nat.pow 256 (4 - [c, b, a].length) ∧
      [c, b, a].all (· < 256) = true := ⟨Nat.lt_succ_self 3, hd, hall⟩
  show (if _ then _ else _) = _
  rw [if_pos hroom]
  simp

theorem readIpv4_ipv4Text {address : Nat} (h : address < 4294967296) :
    readIpv4 (ipv4Text address) = .ok (.ipv4 address) := by
  have hnumbers : ipv4OfNumbers? [address / 16777216 % 256, address / 65536 % 256,
      address / 256 % 256, address % 256] = some address := by
    rw [ipv4OfNumbers?_bytes (by omega) (by omega) (by omega) (by omega)]
    exact congrArg some (by omega)
  unfold readIpv4
  rw [labels_ipv4Text]
  simp only [List.mapM_cons, List.mapM_nil, ipv4Number?_decimal, Option.bind_eq_bind,
    Option.bind_some, Option.pure_def, hnumbers]

theorem foldl_bytes_lt {bytes : List Nat} (h : ∀ b ∈ bytes, b < 256) (n : Nat) :
    bytes.foldl (fun n byte => n * 256 + byte) n < (n + 1) * 256 ^ bytes.length := by
  induction bytes generalizing n with
  | nil => simp
  | cons b bytes ih =>
    have hb := h b (List.mem_cons_self ..)
    have hbytes : ∀ c ∈ bytes, c < 256 := fun c hc => h c (List.mem_cons_of_mem b hc)
    have hstep : n * 256 + b + 1 ≤ (n + 1) * 256 := by omega
    calc bytes.foldl (fun n byte => n * 256 + byte) (n * 256 + b)
        < (n * 256 + b + 1) * 256 ^ bytes.length := ih hbytes _
      _ ≤ (n + 1) * 256 * 256 ^ bytes.length := Nat.mul_le_mul_right _ hstep
      _ = (n + 1) * 256 ^ (b :: bytes).length := by
        rw [List.length_cons, Nat.pow_succ', Nat.mul_assoc]

theorem lt_of_ipv4OfNumbers? {numbers : List Nat} {address : Nat}
    (h : ipv4OfNumbers? numbers = some address) : address < 4294967296 := by
  unfold ipv4OfNumbers? at h
  split at h
  · cases h
  · rename_i last others hreverse
    dsimp only at h
    split at h
    · rename_i hfit
      obtain ⟨hlength, hlast, hbytes⟩ := hfit
      have hbyte : ∀ b ∈ others.reverse, b < 256 := fun b hb => by
        simpa using List.all_eq_true.mp hbytes b (List.mem_reverse.mp hb)
      have hfront := foldl_bytes_lt hbyte 0
      rw [List.length_reverse, Nat.zero_add, Nat.one_mul] at hfront
      have hroom : 256 ^ others.length * 256 ^ (4 - others.length) = 4294967296 := by
        rw [← Nat.pow_add, Nat.add_sub_cancel' (Nat.le_of_lt hlength)]
      cases h
      generalize others.reverse.foldl _ 0 = front at hfront ⊢
      have hle := Nat.mul_le_mul_right (256 ^ (4 - others.length)) (Nat.succ_le_of_lt hfront)
      rw [hroom, Nat.succ_mul] at hle
      exact Nat.lt_of_lt_of_le (Nat.add_lt_add_left hlast _) hle
    · cases h

theorem readHost_ipv4 [DomainNames] {address : Nat} (h : address < 4294967296) :
    readHost (ipv4Text address) = .ok (.ipv4 address) := by
  have hallowed : ∀ c ∈ ipv4Text address, forbiddenInDomain c = false := by
    intro c hc
    rcases mem_ipv4Text hc with hdigit | rfl
    · exact allowed_of_isDigit hdigit
    · decide
  have hlower : (ipv4Text address).map lowerAscii = ipv4Text address := by
    rw [List.map_congr_left (g := id), List.map_id]
    intro c hc
    rcases mem_ipv4Text hc with hdigit | rfl
    · exact lowerAscii_of_isDigit hdigit
    · decide
  have hsound : areSound (splitOn (· == '.') (ipv4Text address)) = true := by
    rw [splitOn_ipv4Text]
    apply areSound_digits
    simp only [List.mem_cons, List.not_mem_nil, or_false]
    rintro label (rfl | rfl | rfl | rfl) c hc
    all_goals exact isDigit_of_mem_decimal hc
  have hnumber : endsInNumber (ipv4Text address) = true := by
    have hdigits : (decimal (address % 256)).all isDigit = true :=
      List.all_eq_true.mpr fun c hc => isDigit_of_mem_decimal hc
    simp [endsInNumber, labels_ipv4Text, hdigits, decimal_ne_nil]
  have hempty : (ipv4Text address).isEmpty = false := by
    simp [ipv4Text]
  obtain ⟨hbracket, hname⟩ := AsciiName.readName? ⟨hallowed, hlower, hsound⟩
  rw [readHost_name hbracket, hname]
  simp only [hempty, hnumber, Bool.false_eq_true, if_false, if_true, readIpv4_ipv4Text h]

/-! ## Addresses of 128 bits -/

/-- The pieces of an address of 128 bits. -/
structure Pieces (pieces : List Nat) : Prop where
  length_eq : pieces.length = 8
  lt : ∀ p ∈ pieces, p < 65536

theorem forall_mem_hex {P : Char → Prop} (h : ∀ k : Fin 16, P (digitChar k.val)) {n : Nat}
    {c : Char} (hc : c ∈ hex n) : P c := by
  obtain ⟨d, hd, rfl⟩ := exists_digit_of_mem (by decide) n c (List.mem_reverse.mp hc)
  exact h ⟨d, hd⟩

theorem ne_colon_of_mem_hex {n : Nat} {c : Char} (hc : c ∈ hex n) : c ≠ ':' :=
  forall_mem_hex (P := fun c => c ≠ ':') (by decide) hc

theorem piece?_hex {p : Nat} (h : p < 65536) : piece? (hex p) = some p := by
  have hlength : (hex p).length ≤ 4 := by
    have hlt : p < 16 ^ (3 + 1) := h
    simpa [hex] using length_digitsRev_le (by decide) hlt
  rw [piece?, if_pos hlength, value?_hex]

theorem pieces?_hex {pieces : List Nat} (h : ∀ p ∈ pieces, p < 65536) :
    pieces? (pieces.map hex) = some pieces := by
  induction pieces with
  | nil => rfl
  | cons p rest ih =>
    have hp := piece?_hex (h p (List.mem_cons_self ..))
    have hrest := ih fun q hq => h q (List.mem_cons_of_mem p hq)
    cases rest with
    | nil =>
      have hpoint : (hex p).contains '.' = false := by
        rw [← Bool.not_eq_true, List.contains_iff_mem]
        exact fun hmem => forall_mem_hex (P := fun c => c ≠ '.') (by decide) hmem rfl
      simp only [List.map_cons, List.map_nil, pieces?, hpoint, hp]
      rfl
    | cons q rest =>
      simp only [List.map_cons] at hrest ⊢
      simp only [pieces?, hp, hrest, Option.bind_eq_bind, Option.bind_some, Option.pure_def]

theorem joinPieces_cons_cons (p q : Nat) (rest : List Nat) :
    joinPieces (p :: q :: rest) = hex p ++ ':' :: joinPieces (q :: rest) := by
  rw [joinPieces]
  simp

/-- The groups of the text of pieces. -/
theorem groups_joinPieces (pieces : List Nat) : groups (joinPieces pieces) = pieces.map hex := by
  have hsplit : ∀ p, splitOn (· == ':') (hex p) = [hex p] := by
    intro p
    apply splitOn_of_none
    intro c hc
    simpa using ne_colon_of_mem_hex hc
  induction pieces with
  | nil => rfl
  | cons p rest ih =>
    cases rest with
    | nil =>
      have hne : (hex p).isEmpty = false := List.isEmpty_eq_false_iff.mpr (hex_ne_nil p)
      simp only [joinPieces, groups, hne, hsplit, Bool.false_eq_true, if_false, List.map_cons,
        List.map_nil]
    | cons q rest =>
      have hne : (joinPieces (q :: rest)).isEmpty = false := by
        cases rest <;> simp [joinPieces, hex_ne_nil]
      rw [groups, hne, if_neg Bool.false_ne_true] at ih
      rw [joinPieces_cons_cons, groups, if_neg (by simp), splitOn_append (c := ':') rfl, hsplit, ih]
      rfl

/-- No gap begins in a text without colons. -/
theorem splitGap_append {front : List Char} (h : ∀ c ∈ front, c ≠ ':') (cs : List Char) :
    splitGap (front ++ cs) =
      (splitGap cs).map fun (gapFront, back) => (front ++ gapFront, back) := by
  induction front with
  | nil =>
    rw [List.nil_append]
    cases splitGap cs with
    | none => rfl
    | some parts => rfl
  | cons c front ih =>
    have hc := h c (List.mem_cons_self ..)
    rw [List.cons_append, splitGap, ih fun d hd => h d (List.mem_cons_of_mem c hd)]
    · cases splitGap cs with
      | none => rfl
      | some parts => rfl
    · rintro rest rfl
      exact absurd rfl hc

theorem splitGap_colon {d : Char} (hd : d ≠ ':') (cs : List Char) :
    splitGap (':' :: d :: cs) =
      (splitGap (d :: cs)).map fun (front, back) => (':' :: front, back) := by
  rw [splitGap]
  rintro rest - heq
  exact hd (List.cons.inj heq).1

/-- The text of a piece and more begins with a digit. -/
theorem joinPieces_cons (p : Nat) (rest : List Nat) :
    ∃ d cs, d ≠ ':' ∧ joinPieces (p :: rest) = d :: cs := by
  obtain ⟨d, cs, hhex⟩ := List.exists_cons_of_ne_nil (hex_ne_nil p)
  have hd : d ≠ ':' := ne_colon_of_mem_hex (n := p) (by rw [hhex]; exact List.mem_cons_self ..)
  cases rest with
  | nil => exact ⟨d, cs, hd, hhex⟩
  | cons q rest =>
    exact ⟨d, cs ++ ':' :: joinPieces (q :: rest), hd, by rw [joinPieces_cons_cons, hhex]; rfl⟩

/-- A character of the text of pieces. -/
theorem mem_joinPieces {pieces : List Nat} {c : Char} (h : c ∈ joinPieces pieces) :
    c = ':' ∨ ∃ p, c ∈ hex p := by
  induction pieces with
  | nil => cases h
  | cons p rest ih =>
    cases rest with
    | nil => exact .inr ⟨p, h⟩
    | cons q rest =>
      rw [joinPieces_cons_cons] at h
      rcases List.mem_append.mp h with h | h
      · exact .inr ⟨p, h⟩
      · rcases List.mem_cons.mp h with rfl | h
        · exact .inl rfl
        · exact ih h

/-- Between pieces there is no gap. -/
theorem splitGap_joinPieces (pieces : List Nat) : splitGap (joinPieces pieces) = none := by
  induction pieces with
  | nil => rfl
  | cons p rest ih =>
    have hp : ∀ c ∈ hex p, c ≠ ':' := fun _ => ne_colon_of_mem_hex
    cases rest with
    | nil =>
      have h := splitGap_append hp []
      rwa [List.append_nil] at h
    | cons q rest =>
      obtain ⟨d, cs, hd, hjoin⟩ := joinPieces_cons q rest
      rw [joinPieces_cons_cons, splitGap_append hp, hjoin, splitGap_colon hd, ← hjoin, ih]
      rfl

/-- Behind pieces the gap is found. -/
theorem splitGap_gap (pieces : List Nat) (back : List Char) :
    splitGap (joinPieces pieces ++ ':' :: ':' :: back) = some (joinPieces pieces, back) := by
  induction pieces with
  | nil => rfl
  | cons p rest ih =>
    have hp : ∀ c ∈ hex p, c ≠ ':' := fun _ => ne_colon_of_mem_hex
    cases rest with
    | nil =>
      rw [joinPieces, splitGap_append hp]
      simp [splitGap]
    | cons q rest =>
      obtain ⟨d, cs, hd, hjoin⟩ := joinPieces_cons q rest
      rw [hjoin, List.cons_append] at ih
      rw [joinPieces_cons_cons, List.append_assoc, splitGap_append hp, hjoin, List.cons_append,
        List.cons_append, splitGap_colon hd, ih]
      rfl

/-! ### The longest run of zeros -/

theorem zeroRun_le (pieces : List Nat) : zeroRun pieces ≤ pieces.length :=
  (List.takeWhile_prefix _).length_le

theorem take_zeroRun (pieces : List Nat) :
    pieces.take (zeroRun pieces) = List.replicate (zeroRun pieces) 0 := by
  have htake : pieces.take (zeroRun pieces) = pieces.takeWhile (· == 0) :=
    (List.prefix_iff_eq_take.mp (List.takeWhile_prefix _)).symm
  rw [htake, List.eq_replicate_iff]
  refine ⟨rfl, fun p hp => ?_⟩
  simpa using List.all_eq_true.mp List.all_takeWhile p hp

/-- The longest run lies among the pieces, and consists of zeros. -/
theorem longestRun_spec (start : Nat) (pieces : List Nat) :
    ∃ offset, (longestRun start pieces).2 = 0 ∨ (longestRun start pieces).1 = start + offset ∧
      offset + (longestRun start pieces).2 ≤ pieces.length ∧
      (pieces.drop offset).take (longestRun start pieces).2 =
        List.replicate (longestRun start pieces).2 0 := by
  induction pieces generalizing start with
  | nil => exact ⟨0, .inl rfl⟩
  | cons p rest ih =>
    unfold longestRun
    dsimp only
    split
    · refine ⟨0, .inr ⟨rfl, ?_, take_zeroRun _⟩⟩
      rw [Nat.zero_add]
      exact zeroRun_le _
    · obtain ⟨offset, hzero | ⟨hplace, hle, hzeros⟩⟩ := ih (start + 1)
      · exact ⟨0, .inl hzero⟩
      · refine ⟨offset + 1, .inr ⟨by omega, ?_, hzeros⟩⟩
        rw [List.length_cons]
        omega

/-! ### Reading pieces -/

theorem ipv6Pieces?_ipv6Text {pieces : List Nat} (h : Pieces pieces) :
    ipv6Pieces? (ipv6Text pieces) = some pieces := by
  obtain ⟨offset, hrun⟩ := longestRun_spec 0 pieces
  unfold ipv6Text
  generalize longestRun 0 pieces = run at hrun
  obtain ⟨place, length⟩ := run
  dsimp only at hrun ⊢
  split
  · have hall := pieces?_hex h.lt
    simp only [ipv6Pieces?, splitGap_joinPieces, groups_joinPieces, hall, Option.bind_eq_bind,
      Option.bind_some]
    rw [if_pos h.length_eq]
  · rename_i hlong
    rcases hrun with hzero | ⟨hplace, hle, hzeros⟩
    · omega
    · obtain rfl : place = offset := by omega
      have hfront : ∀ p ∈ pieces.take place, p < 65536 :=
        fun p hp => h.lt p (List.mem_of_mem_take hp)
      have hback : ∀ p ∈ pieces.drop (place + length), p < 65536 :=
        fun p hp => h.lt p (List.mem_of_mem_drop hp)
      have hpoint : (joinPieces (pieces.take place)).contains '.' = false := by
        rw [← Bool.not_eq_true, List.contains_iff_mem]
        intro hmem
        rcases mem_joinPieces hmem with heq | ⟨p, hp⟩
        · exact absurd heq (by decide)
        · exact forall_mem_hex (P := fun c => c ≠ '.') (by decide) hp rfl
      have hlength := h.length_eq
      have hfill : 8 - (pieces.take place).length - (pieces.drop (place + length)).length =
          length := by
        simp only [List.length_take, List.length_drop]
        omega
      have hshort : (pieces.take place).length + (pieces.drop (place + length)).length < 8 := by
        simp only [List.length_take, List.length_drop]
        omega
      simp only [ipv6Pieces?, List.append_assoc, splitGap_gap, hpoint,
        groups_joinPieces, pieces?_hex hfront, pieces?_hex hback, Bool.false_eq_true, if_false,
        Option.bind_eq_bind, Option.bind_some, if_pos hshort, hfill, ← hzeros]
      rw [← List.drop_drop, List.take_append_drop, List.take_append_drop]

theorem extend?_lt {base n m : Nat} {cs : List Char} (h : extend? base n cs = some m) :
    m < (n + 1) * base ^ cs.length := by
  induction cs generalizing n with
  | nil =>
    cases h
    simp
  | cons c cs ih =>
    unfold extend? at h
    split at h
    · rename_i d hd
      have hlt : d < base := by
        unfold digitIn? at hd
        split at hd
        · split at hd
          · cases hd
            assumption
          · cases hd
        · cases hd
      have hstep : n * base + d + 1 ≤ (n + 1) * base := by
        rw [Nat.succ_mul]
        omega
      calc m < (n * base + d + 1) * base ^ cs.length := ih h
        _ ≤ (n + 1) * base * base ^ cs.length := Nat.mul_le_mul_right _ hstep
        _ = (n + 1) * base ^ (c :: cs).length := by
          rw [List.length_cons, Nat.pow_succ', Nat.mul_assoc]
    · cases h

theorem piece?_lt {cs : List Char} {p : Nat} (h : piece? cs = some p) : p < 65536 := by
  unfold piece? at h
  split at h
  · rename_i hlength
    have hne : cs ≠ [] := by
      rintro rfl
      cases h
    rw [value?_eq_extend? hne] at h
    have hlt := extend?_lt h
    rw [Nat.zero_add, Nat.one_mul] at hlt
    exact Nat.lt_of_lt_of_le hlt (Nat.pow_le_pow_right (by decide) hlength)
  · cases h

theorem ipv4Byte?_lt {label : List Char} {n : Nat} (h : ipv4Byte? label = some n) : n < 256 := by
  unfold ipv4Byte? at h
  split at h
  · split at h
    · split at h
      · cases h
        assumption
      · cases h
    · cases h
  · cases h

theorem exists_of_mem_mapM {α β : Type} {f : α → Option β} {xs : List α} {ys : List β}
    (h : xs.mapM f = some ys) {y : β} (hy : y ∈ ys) : ∃ x, f x = some y := by
  induction xs generalizing ys with
  | nil =>
    cases h
    cases hy
  | cons x xs ih =>
    rw [List.mapM_cons] at h
    simp only [Option.bind_eq_bind, Option.bind_eq_some_iff, Option.pure_def] at h
    obtain ⟨z, hz, zs, hzs, heq⟩ := h
    cases heq
    rcases List.mem_cons.mp hy with rfl | hy
    · exact ⟨x, hz⟩
    · exact ih hzs hy

theorem ipv4Pieces?_lt {cs : List Char} {pieces : List Nat} (h : ipv4Pieces? cs = some pieces) :
    ∀ p ∈ pieces, p < 65536 := by
  unfold ipv4Pieces? at h
  split at h
  · rename_i a b c d hbytes
    cases h
    have hlt : ∀ n ∈ [a, b, c, d], n < 256 := fun n hn => by
      obtain ⟨label, hlabel⟩ := exists_of_mem_mapM hbytes hn
      exact ipv4Byte?_lt hlabel
    have ha := hlt a (by simp)
    have hb := hlt b (by simp)
    have hc := hlt c (by simp)
    have hd := hlt d (by simp)
    simp only [List.mem_cons, List.not_mem_nil, or_false]
    rintro p (rfl | rfl)
    · omega
    · omega
  · cases h

theorem pieces?_lt {groups : List (List Char)} {pieces : List Nat}
    (h : pieces? groups = some pieces) :
    ∀ p ∈ pieces, p < 65536 := by
  induction groups generalizing pieces with
  | nil =>
    cases h
    simp
  | cons group others ih =>
    cases others with
    | nil =>
      unfold pieces? at h
      split at h
      · exact ipv4Pieces?_lt h
      · obtain ⟨p, hp, rfl⟩ := Option.map_eq_some_iff.mp h
        simpa using piece?_lt hp
    | cons next others =>
      simp only [pieces?, Option.bind_eq_bind, Option.bind_eq_some_iff, Option.pure_def] at h
      obtain ⟨p, hp, rest, hrest, heq⟩ := h
      cases heq
      intro q hq
      rcases List.mem_cons.mp hq with rfl | hq
      · exact piece?_lt hp
      · exact ih hrest q hq

theorem pieces_of_ipv6Pieces? {cs : List Char} {pieces : List Nat}
    (h : ipv6Pieces? cs = some pieces) : Pieces pieces := by
  unfold ipv6Pieces? at h
  split at h
  · simp only [Option.bind_eq_bind, Option.bind_eq_some_iff] at h
    obtain ⟨all, hall, heq⟩ := h
    split at heq
    · cases heq
      exact ⟨by assumption, pieces?_lt hall⟩
    · cases heq
  · split at h
    · cases h
    simp only [Option.bind_eq_bind, Option.bind_eq_some_iff] at h
    obtain ⟨front, hfront, back, hback, heq⟩ := h
    split at heq
    · rename_i hlength
      cases heq
      refine ⟨?_, ?_⟩
      · simp only [List.length_append, List.length_replicate]
        omega
      · intro p hp
        rcases List.mem_append.mp hp with hp | hp
        · rcases List.mem_append.mp hp with hp | hp
          · exact pieces?_lt hfront p hp
          · rw [(List.mem_replicate.mp hp).2]
            decide
        · exact pieces?_lt hback p hp
    · cases heq

/-! ## Hosts -/

/-- What a host of a scheme whose structure is not known may be named. -/
structure OpaqueName (name : List Char) : Prop where
  ne_nil : name ≠ []
  keeps : ∀ c ∈ name, Part.opaquePart.keeps c = true
  allowed : ∀ c ∈ name, forbiddenInHost c = false

/-- The hosts of schemes whose structure is known. -/
inductive Host.Known : Host → Prop
  | domain {name : List Char} (h : DomainName name) : Known (.domain name)
  | ipv4 {address : Nat} (h : address < 4294967296) : Known (.ipv4 address)
  | ipv6 {pieces : List Nat} (h : Pieces pieces) : Known (.ipv6 pieces)

/-- The hosts of other schemes. -/
inductive Host.Unknown : Host → Prop
  | ipv6 {pieces : List Nat} (h : Pieces pieces) : Unknown (.ipv6 pieces)
  | opaqueHost {name : List Char} (h : OpaqueName name) : Unknown (.opaqueHost name)

theorem readIpv6_eq_ok {cs : List Char} {host : Host} (h : readIpv6 cs = .ok host) :
    ∃ pieces, host = .ipv6 pieces ∧ Pieces pieces := by
  unfold readIpv6 at h
  split at h
  · rename_i pieces hpieces
    cases h
    exact ⟨pieces, rfl, pieces_of_ipv6Pieces? hpieces⟩
  · cases h

theorem unbracket_eq_ok {cs : List Char} {host : Host} (h : unbracket cs = .ok host) :
    ∃ pieces, host = .ipv6 pieces ∧ Pieces pieces := by
  unfold unbracket at h
  split at h
  · exact readIpv6_eq_ok h
  · cases h

theorem unbracket_ipv6Text {pieces : List Nat} (h : Pieces pieces) :
    unbracket (ipv6Text pieces ++ [']']) = .ok (.ipv6 pieces) := by
  unfold unbracket
  rw [if_pos (by simp), List.dropLast_concat, readIpv6, ipv6Pieces?_ipv6Text h]

/-- **Every host that is read is one of those above**, for a scheme whose structure is known. -/
theorem readHost_known [DomainNames] {cs : List Char} {host : Host} (h : readHost cs = .ok host) :
    host.Known := by
  by_cases hbracket : cs.head? = some '['
  · obtain ⟨rest, rfl⟩ : ∃ rest, cs = '[' :: rest := by
      cases cs with
      | nil => cases hbracket
      | cons c rest =>
        cases hbracket
        exact ⟨rest, rfl⟩
    obtain ⟨pieces, rfl, hpieces⟩ := unbracket_eq_ok h
    exact .ipv6 hpieces
  · rw [readHost_name hbracket] at h
    split at h
    · cases h
    · rename_i name hname
      split at h
      · cases h
      · rename_i hempty
        split at h
        · rename_i hnumber
          unfold readIpv4 at h
          split at h
          · cases h
          · split at h
            · cases h
            · rename_i address haddress
              cases h
              exact .ipv4 (lt_of_ipv4OfNumbers? haddress)
        · rename_i hnumber
          cases h
          exact .domain ⟨readName?_ascii hname, by simpa using hempty, by simpa using hnumber⟩

/-- **A host of a scheme whose structure is known is read back from its text.** -/
theorem readHost_chars [DomainNames] {host : Host} (h : host.Known) :
    readHost host.chars = .ok host := by
  cases h with
  | domain h => exact readHost_domain h
  | ipv4 h => exact readHost_ipv4 h
  | ipv6 h => exact unbracket_ipv6Text h

/-- **Every host that is read is none or one of those above**, for any other scheme. -/
theorem readOpaqueHost_cases {cs : List Char} {host : Host} (h : readOpaqueHost cs = .ok host) :
    cs = [] ∧ host = .empty ∨ cs ≠ [] ∧ host.Unknown := by
  unfold readOpaqueHost at h
  split at h
  · cases h
    exact .inl ⟨rfl, rfl⟩
  · obtain ⟨pieces, rfl, hpieces⟩ := unbracket_eq_ok h
    exact .inr ⟨by simp, .ipv6 hpieces⟩
  · rename_i hne hbracket
    split at h
    · cases h
    · rename_i hallowed
      cases h
      have hcs : cs ≠ [] := fun hnil => hne hnil
      refine .inr ⟨hcs, .opaqueHost ⟨?_, fun c hc => keeps_of_mem_encode hc, ?_⟩⟩
      · obtain ⟨c, rest, rfl⟩ := List.exists_cons_of_ne_nil hcs
        intro hnil
        have hhead := head?_encode .opaquePart c rest
        rw [hnil] at hhead
        rcases hhead with hhead | hhead <;> cases hhead
      · intro c hc
        rcases mem_encode hc with ⟨hmem, -⟩ | hescape
        · simpa using List.any_eq_false.mp (Bool.not_eq_true _ ▸ hallowed) c hmem
        · exact forall_mem_of_all (P := fun c => forbiddenInHost c = false) (by decide) c hescape

/-- **A host of any other scheme is read back from its text.** -/
theorem readOpaqueHost_chars {host : Host} (h : host.Unknown) :
    readOpaqueHost host.chars = .ok host := by
  cases h with
  | ipv6 h => exact unbracket_ipv6Text h
  | @opaqueHost name h =>
    have hany : name.any forbiddenInHost = false := by
      rw [List.any_eq_false]
      exact fun c hc => by simp [h.allowed c hc]
    show readOpaqueHost name = _
    unfold readOpaqueHost
    split
    · exact absurd rfl h.ne_nil
    · have hbracket := h.allowed '[' (List.mem_cons_self ..)
      exact absurd hbracket (by decide)
    · rw [hany, encode_kept h.keeps]
      rfl

end StatusRegistry.Url
