import StatusRegistry.Proofs.Deflate.Bits

/-!
# Canonical codes

What a code with given word lengths is, told without a tree: the words of one length are numbered in
the order of their symbols, and the first of them stands behind all words that go on from shorter
ones.

* `firstWord`, `wordOf`, `Codeword`, `IsCode`: the words of a code, a word that stands at a
  position, and lengths that make up a code;
* `below_iff`: what stands below a node of the tree of all words, by one more bit;
* `Level.pairUp`, `Level.rise`: the trees of one depth are the nodes of that depth, from the deepest
  one upwards;
* `CodeTree.read_eq_ok_iff`, `CodeTree.isSome_ofLengths?`: the tree that is built reads the words of
  the code, and is built for every code.
-/

set_option autoImplicit false

namespace StatusRegistry.Deflate

/-! ## Words -/

/-- The first word of a length.  It goes on from the first word one bit shorter that is neither a
word of the code nor goes on from one. -/
def firstWord (lengths : List Nat) : Nat → Nat
  | 0 => 0
  | length + 1 => 2 * (firstWord lengths length + if length = 0 then 0 else lengths.count length)

/-- The word of a symbol, whose length is given. -/
def wordOf (lengths : List Nat) (symbol length : Nat) : Nat :=
  firstWord lengths length + (lengths.take symbol).count length

/-- The word of a symbol between two positions; a symbol of length zero has none. -/
def Codeword (src : ByteArray) (lengths : List Nat) (pos symbol next : Nat) : Prop :=
  ∃ length, 0 < length ∧ length ≤ 15 ∧ lengths[symbol]? = some length ∧ next = pos + length ∧
    Leading src pos length (wordOf lengths symbol length)

/-- Word lengths make up a code: all words together go on to each word of 15 bits.  Where a code may
be `sparse`, there may also be no word at all, or one of a single bit. -/
def IsCode (sparse : Bool) (lengths : List Nat) : Prop :=
  (lengths.map fun length => if length = 0 then 0 else 2 ^ (15 - length)).sum = 2 ^ 15 ∨
    sparse = true ∧ lengths.sum ≤ 1

section Words

variable {src : ByteArray} {lengths : List Nat} {pos symbol next : Nat}

/-- A word takes a bit that is there. -/
theorem Codeword.advances (h : Codeword src lengths pos symbol next) :
    pos < next ∧ pos < 8 * src.size := by
  obtain ⟨length, hpos, -, -, rfl, -, hbits⟩ := h
  exact ⟨by omega, (hbits 0 hpos).lt⟩

theorem Codeword.append (h : Codeword src lengths pos symbol next) (rest : ByteArray) :
    Codeword (src ++ rest) lengths pos symbol next := by
  obtain ⟨length, hpos, hmost, hlength, hnext, hword⟩ := h
  exact ⟨length, hpos, hmost, hlength, hnext, hword.append rest⟩

theorem firstWord_mul_le (lengths : List Nat) (length more : Nat) :
    firstWord lengths length * 2 ^ more ≤ firstWord lengths (length + more) := by
  induction more with
  | zero => simp
  | succ more ih =>
    have hstep : 2 * firstWord lengths (length + more) ≤ firstWord lengths (length + more + 1) :=
      Nat.mul_le_mul_left 2 (Nat.le_add_right _ _)
    calc firstWord lengths length * 2 ^ (more + 1)
        = 2 * (firstWord lengths length * 2 ^ more) := by
          rw [Nat.pow_succ, ← Nat.mul_assoc, Nat.mul_comm]
      _ ≤ 2 * firstWord lengths (length + more) := Nat.mul_le_mul_left 2 ih
      _ ≤ firstWord lengths (length + (more + 1)) := hstep

theorem rank_lt_count {length : Nat} (h : lengths[symbol]? = some length) :
    (lengths.take symbol).count length < lengths.count length := by
  obtain ⟨hlt, hget⟩ := List.getElem?_eq_some_iff.mp h
  have hsplit := congrArg (List.count length) (List.take_append_drop symbol lengths)
  rw [List.count_append, List.drop_eq_getElem_cons hlt, hget, List.count_cons_self] at hsplit
  omega

end Words

/-! ## The tree of all words -/

/-- What is found behind the first `depth` bits of a word, if these are the number of a node of that
depth: the bits of the rest stand at a position. -/
def Below (src : ByteArray) (lengths : List Nat) (depth node pos symbol next : Nat) : Prop :=
  ∃ more, 0 < depth + more ∧ depth + more ≤ 15 ∧ lengths[symbol]? = some (depth + more) ∧
    next = pos + more ∧ wordOf lengths symbol (depth + more) / 2 ^ more = node ∧
    ∀ i < more, BitAt src (pos + i) ((wordOf lengths symbol (depth + more)).testBit (more - 1 - i))

section Below

variable {src : ByteArray} {lengths : List Nat} {depth node pos symbol next : Nat}

theorem codeword_iff_below :
    Codeword src lengths pos symbol next ↔ Below src lengths 0 0 pos symbol next := by
  unfold Codeword Below Leading
  simp only [Nat.zero_add, Nat.div_eq_zero_iff_lt (Nat.two_pow_pos _)]

/-- Behind a node is the symbol whose word it is, or what one more bit leads to. -/
theorem below_iff :
    Below src lengths depth node pos symbol next ↔
      (0 < depth ∧ depth ≤ 15 ∧ lengths[symbol]? = some depth ∧
        wordOf lengths symbol depth = node ∧ next = pos) ∨
      ∃ b, BitAt src pos b ∧
        Below src lengths (depth + 1) (2 * node + b.toNat) (pos + 1) symbol next := by
  constructor
  · rintro ⟨more, hpos, hmost, hlength, hnext, hnode, hbits⟩
    cases more with
    | zero =>
      rw [Nat.pow_zero, Nat.div_one] at hnode
      exact .inl ⟨hpos, hmost, hlength, hnode, hnext⟩
    | succ more =>
      rw [← Nat.add_assoc, Nat.add_right_comm] at hpos hmost hlength hnode hbits
      refine .inr ⟨_, hbits 0 (Nat.zero_lt_succ _), more, hpos, hmost, hlength, by omega, ?_,
        fun i hi => ?_⟩
      · rw [Nat.pow_succ, ← Nat.div_div_eq_div_mul] at hnode
        rw [Nat.add_sub_cancel, Nat.sub_zero, Nat.toNat_testBit]
        omega
      · have hbit := hbits (i + 1) (by omega)
        rwa [show more + 1 - 1 - (i + 1) = more - 1 - i by omega, Nat.add_comm i,
          ← Nat.add_assoc] at hbit
  · rintro (⟨hpos, hmost, hlength, hnode, rfl⟩ | ⟨b, hbit, more, hpos, hmost, hlength, rfl, hnode,
      hbits⟩)
    · exact ⟨0, hpos, hmost, hlength, rfl, by rw [Nat.pow_zero, Nat.div_one]; exact hnode, nofun⟩
    · have hlast : b.toNat < 2 := Bool.toNat_lt b
      rw [Nat.add_right_comm, Nat.add_assoc] at hpos hmost hlength hnode hbits
      refine ⟨more + 1, hpos, hmost, hlength, by omega, ?_, fun i hi => ?_⟩
      · rw [Nat.pow_succ, ← Nat.div_div_eq_div_mul, hnode]
        omega
      · cases i with
        | zero =>
          have hsame : (wordOf lengths symbol (depth + (more + 1))).testBit more = b := by
            rw [Nat.testBit_eq_decide_div_mod_eq, hnode, Nat.mul_add_mod]
            cases b <;> rfl
          rw [Nat.add_sub_cancel, Nat.sub_zero, hsame]
          exact hbit
        | succ i =>
          have hrest := hbits i (by omega)
          rwa [show more - 1 - i = more + 1 - 1 - (i + 1) by omega, Nat.add_right_comm,
            Nat.add_assoc] at hrest

/-- The nodes in front of the first word of a depth belong to shorter words. -/
theorem Below.le (h : Below src lengths depth node pos symbol next) :
    firstWord lengths depth ≤ node := by
  obtain ⟨more, -, -, -, -, rfl, -⟩ := h
  exact (Nat.le_div_iff_mul_le (Nat.two_pow_pos more)).mpr
    (Nat.le_trans (firstWord_mul_le lengths depth more) (Nat.le_add_right _ _))

theorem not_below_of_gt (h : 15 < depth) : ¬ Below src lengths depth node pos symbol next := by
  rintro ⟨more, -, hmost, -⟩
  omega

end Below

/-! ## Levels -/

/-- Trees are the nodes of a depth from the first word of that length on. -/
def Level (src : ByteArray) (lengths : List Nat) (depth : Nat) (trees : List CodeTree) : Prop :=
  ∀ k pos symbol next, (trees.getD k .gap).read src pos = .ok (symbol, next) ↔
    Below src lengths depth (firstWord lengths depth + k) pos symbol next

section Level

open CodeTree

variable {src : ByteArray} {lengths : List Nat} {depth : Nat} {below : List CodeTree}

theorem length_leaves (length symbol : Nat) (lengths : List Nat) :
    (leaves length symbol lengths).length = lengths.count length := by
  induction lengths generalizing symbol with
  | nil => rfl
  | cons l rest ih =>
    rw [leaves, List.count_cons]
    by_cases h : l = length
    · simp [h, ih]
    · simp [h, ih]

/-- The leaves of a length are those of its symbols in order. -/
theorem leaves_getElem? {length start k : Nat} {tree : CodeTree} :
    (leaves length start lengths)[k]? = some tree ↔
      ∃ i, lengths[i]? = some length ∧ (lengths.take i).count length = k ∧
        tree = leaf (start + i) := by
  induction lengths generalizing start k with
  | nil => simp [leaves]
  | cons l rest ih =>
    rw [leaves, ← Nat.or_exists_add_one]
    simp only [List.getElem?_cons_zero, List.getElem?_cons_succ, List.take_zero, List.count_nil,
      List.take_succ_cons, List.count_cons, Option.some.injEq, beq_iff_eq, Nat.add_zero]
    by_cases h : l = length
    · cases k with
      | zero =>
        simp [h, eq_comm]
      | succ k =>
        simp [h, ih, Nat.add_assoc, Nat.add_comm 1]
    · simp [h, ih, Nat.add_assoc, Nat.add_comm 1]

theorem read_node {zero one : CodeTree} {pos : Nat} {found : Nat × Nat} :
    (node zero one).read src pos = .ok found ↔
      ∃ b, BitAt src pos b ∧ (if b then one else zero).read src (pos + 1) = .ok found := by
  rw [CodeTree.read]
  cases hbit : bit? src pos with
  | none =>
    simp only [reduceCtorEq, false_iff]
    rintro ⟨b, hb, -⟩
    cases hbit.symm.trans (bit?_eq_some_iff.mpr hb)
  | some b =>
    have hb := bit?_eq_some_iff.mp hbit
    constructor
    · intro h
      exact ⟨b, hb, by cases b <;> exact h⟩
    · rintro ⟨b', hb', h⟩
      cases hb.unique hb'
      cases b <;> exact h

/-- A tree of two holds what stands at an even place and what stands behind it. -/
theorem read_pairUp {k pos : Nat} {found : Nat × Nat} :
    ((pairUp below).getD k gap).read src pos = .ok found ↔
      ∃ b, BitAt src pos b ∧ (below.getD (2 * k + b.toNat) gap).read src (pos + 1) = .ok found := by
  have hgap : ∀ pos, gap.read src pos ≠ .ok found := nofun
  induction below using pairUp.induct generalizing k with
  | case1 => simp [pairUp, hgap]
  | case2 t =>
    cases k with
    | zero =>
      refine read_node.trans (exists_congr fun b => and_congr_right fun _ => ?_)
      cases b <;> exact Iff.rfl
    | succ k => simp [pairUp, hgap, Nat.mul_succ, Nat.add_right_comm]
  | case3 t u rest ih =>
    cases k with
    | zero =>
      refine read_node.trans (exists_congr fun b => and_congr_right fun _ => ?_)
      cases b <;> exact Iff.rfl
    | succ k =>
      have hplace : ∀ b : Bool, 2 * (k + 1) + b.toNat = 2 * k + b.toNat + 2 := fun b => by omega
      simp only [pairUp, List.getD_cons_succ, hplace]
      exact ih

/-- The nodes of a depth are in pairs the children of those one level further up, behind the words
of the upper level. -/
theorem Level.pairUp (h : Level src lengths (depth + 1) below) (k : Nat) {pos symbol next : Nat} :
    ((CodeTree.pairUp below).getD k gap).read src pos = .ok (symbol, next) ↔
      ∃ b, BitAt src pos b ∧ Below src lengths (depth + 1)
        (2 * (firstWord lengths depth + (if depth = 0 then 0 else lengths.count depth) + k) +
          b.toNat) (pos + 1) symbol next := by
  rw [read_pairUp]
  refine exists_congr fun b => and_congr_right fun _ => ?_
  rw [h, firstWord, Nat.mul_add _ _ k, Nat.add_assoc]

theorem Level.root (h : Level src lengths 1 below) :
    Level src lengths 0 (CodeTree.pairUp below) := by
  intro k pos symbol next
  rw [h.pairUp k, below_iff]
  simp [firstWord]

theorem Level.upper (hdepth : 0 < depth) (hmost : depth ≤ 15)
    (h : Level src lengths (depth + 1) below) :
    Level src lengths depth (leaves depth 0 lengths ++ CodeTree.pairUp below) := by
  intro k pos symbol next
  have hlength := length_leaves depth 0 lengths
  rw [below_iff]
  by_cases hk : k < lengths.count depth
  · -- a leaf: the nodes behind it are in front of the first longer word
    have hnone : ∀ b pos, ¬ Below src lengths (depth + 1)
        (2 * (firstWord lengths depth + k) + Bool.toNat b) pos symbol next := by
      intro b pos hbelow
      have hle := hbelow.le
      have hlast := Bool.toNat_lt b
      rw [firstWord, if_neg (Nat.ne_of_gt hdepth)] at hle
      omega
    obtain ⟨tree, htree⟩ : ∃ tree, (leaves depth 0 lengths)[k]? = some tree :=
      ⟨_, List.getElem?_eq_getElem (hlength ▸ hk)⟩
    obtain ⟨i, hi, hrank, rfl⟩ := leaves_getElem?.mp htree
    have hread : (leaves depth 0 lengths ++ CodeTree.pairUp below).getD k gap = leaf i := by
      rw [List.getD_eq_getElem?_getD, List.getElem?_append_left (hlength ▸ hk), htree, Nat.zero_add]
      rfl
    rw [hread]
    constructor
    · intro hleaf
      cases hleaf
      exact .inl ⟨hdepth, hmost, hi, by rw [wordOf, hrank], rfl⟩
    · rintro (⟨-, -, hsymbol, hword, rfl⟩ | ⟨b, -, hbelow⟩)
      · have hsame := leaves_getElem?.mpr
          ⟨symbol, hsymbol, Nat.add_left_cancel hword, (rfl : _ = leaf (0 + symbol))⟩
        rw [htree, Option.some.injEq, Nat.zero_add, Nat.zero_add] at hsame
        rw [hsame]
        rfl
      · exact absurd hbelow (hnone b (pos + 1))
  · have hword : ∀ {symbol}, lengths[symbol]? = some depth →
        wordOf lengths symbol depth ≠ firstWord lengths depth + k := by
      intro symbol hsymbol
      have hrank := rank_lt_count hsymbol
      unfold wordOf
      omega
    obtain ⟨j, rfl⟩ : ∃ j, k = lengths.count depth + j := ⟨k - lengths.count depth, by omega⟩
    have hread :
        (leaves depth 0 lengths ++ CodeTree.pairUp below).getD (lengths.count depth + j) gap =
          (CodeTree.pairUp below).getD j gap := by
      rw [List.getD_eq_getElem?_getD, List.getElem?_append_right (by omega), hlength,
        Nat.add_sub_cancel_left, ← List.getD_eq_getElem?_getD]
    rw [hread, h.pairUp j, if_neg (Nat.ne_of_gt hdepth), Nat.add_assoc]
    refine (or_iff_right ?_).symm
    rintro ⟨-, -, hsymbol, hnode, -⟩
    exact hword hsymbol hnode

/-- **The trees of every level above the deepest words are nodes of the tree of all words.** -/
theorem Level.rise (hmost : depth ≤ 15) (h : Level src lengths (depth + 1) below) :
    Level src lengths 0 (CodeTree.rise lengths depth below) := by
  induction depth generalizing below with
  | zero => exact h.root
  | succ depth ih => exact ih (by omega) (h.upper (Nat.zero_lt_succ depth) hmost)

end Level

/-! ## Trees of codes -/

namespace CodeTree

variable {src : ByteArray} {sparse : Bool} {lengths : List Nat} {tree : CodeTree}

/-- **The tree of some word lengths reads the words of their code.** -/
theorem read_eq_ok_iff (h : ofLengths? sparse lengths = some tree) {pos symbol next : Nat} :
    tree.read src pos = .ok (symbol, next) ↔ Codeword src lengths pos symbol next := by
  have hdeepest : Level src lengths 16 [] := by
    intro k pos symbol next
    exact ⟨nofun, fun hbelow => absurd hbelow (not_below_of_gt (by decide))⟩
  have hroot := hdeepest.rise (Nat.le_refl 15) 0 pos symbol next
  rw [codeword_iff_below]
  refine Iff.trans ?_ hroot
  simp only [ofLengths?] at h
  split at h
  · split at h
    · rename_i hrise
      cases h
      rw [maxLength] at hrise
      rw [hrise]
      refine ⟨fun hread => ?_, nofun⟩
      obtain ⟨b, -, hread⟩ := read_node.mp hread
      cases b <;> cases hread
    · rename_i t rest hrise
      cases h
      rw [maxLength] at hrise
      rw [hrise]
      exact Iff.rfl
  · cases h

theorem weight_eq (lengths : List Nat) : weight lengths =
    (lengths.map fun length => if length = 0 then 0 else 2 ^ (15 - length)).sum := by
  have hfold : ∀ total, lengths.foldl
      (fun total l => if l = 0 then total else total + (1 <<< (maxLength - l))) total =
        total + (lengths.map fun length => if length = 0 then 0 else 2 ^ (15 - length)).sum := by
    induction lengths with
    | nil => simp
    | cons l rest ih =>
      intro total
      rw [List.foldl_cons, ih, List.map_cons, List.sum_cons, Nat.one_shiftLeft]
      split <;> simp [maxLength, Nat.add_assoc]
  rw [weight, hfold, Nat.zero_add]

/-- **A tree is built iff the word lengths make up a code.** -/
theorem isSome_ofLengths? : (ofLengths? sparse lengths).isSome ↔ IsCode sparse lengths := by
  have hbuilt : (ofLengths? sparse lengths).isSome ↔
      weight lengths = 2 ^ 15 ∨ sparse = true ∧ lengths.sum ≤ 1 := by
    rw [List.sum_eq_foldl]
    simp only [ofLengths?]
    split
    · rename_i hcode
      split <;> simpa [maxLength] using hcode
    · rename_i hcode
      simpa [maxLength] using hcode
  rw [hbuilt, weight_eq, IsCode]

end CodeTree

end StatusRegistry.Deflate
