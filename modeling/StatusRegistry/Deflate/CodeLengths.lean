import StatusRegistry.Deflate.Tree

/-!
# Choosing code words

Word lengths for symbols that occur so many times: two trees of the least weight are joined until
one is left, so the rarer a symbol is, the longer its word.

* `insertTree_length`: one tree is added.
-/

set_option autoImplicit false

namespace StatusRegistry.Deflate

/-- A tree with the number of times that its symbols occur. -/
structure WeightedTree where
  weight : Nat
  tree : CodeTree

/-- Adds a tree to trees in ascending order of their weights, behind those of its own weight. -/
def insertTree (t : WeightedTree) : List WeightedTree → List WeightedTree
  | [] => [t]
  | u :: rest => if t.weight < u.weight then t :: u :: rest else u :: insertTree t rest

@[simp] theorem insertTree_length (t : WeightedTree) (trees : List WeightedTree) :
    (insertTree t trees).length = trees.length + 1 := by
  induction trees with
  | nil => rfl
  | cons u rest ih =>
    simp only [insertTree]
    split <;> simp [ih]

/-- Joins the two lightest trees until one is left. -/
def joinTrees : List WeightedTree → CodeTree
  | [] => .gap
  | [t] => t.tree
  | t :: u :: rest => joinTrees (insertTree ⟨t.weight + u.weight, .node t.tree u.tree⟩ rest)
termination_by trees => trees.length
decreasing_by simp

/-- The symbols of a tree with the lengths of their words; a lone symbol has a word of one bit. -/
def CodeTree.depths : CodeTree → Nat → List (Nat × Nat)
  | leaf symbol, depth => [(symbol, max depth 1)]
  | node zero one, depth => zero.depths (depth + 1) ++ one.depths (depth + 1)
  | gap, _ => []

/-- The leaves of the symbols that occur, counted from `symbol` on. -/
def weightedLeaves : Nat → List Nat → List WeightedTree
  | _, [] => []
  | symbol, weight :: rest =>
    let leaves := weightedLeaves (symbol + 1) rest
    if weight = 0 then leaves else insertTree ⟨weight, .leaf symbol⟩ leaves

/-- A list with the values of some places, zero at all others. -/
def listOf (size : Nat) (values : List (Nat × Nat)) : List Nat :=
  (values.foldl (fun a v => a.setIfInBounds v.1 v.2) (Array.replicate size 0)).toList

/-- Word lengths for symbols of the given weights, zero for those that do not occur. -/
def freeLengths (weights : List Nat) : List Nat :=
  listOf weights.length ((joinTrees (weightedLeaves 0 weights)).depths 0)

/-- Word lengths that do not exceed a limit, if that is met after the weights were halved a number
of times; the rarest symbols become as frequent as the others then. -/
def limitedLengths (limit : Nat) : Nat → List Nat → List Nat
  | 0, weights => freeLengths weights
  | rounds + 1, weights =>
    let lengths := freeLengths weights
    if lengths.all (· ≤ limit) then lengths
    else limitedLengths limit rounds (weights.map fun w => (w + 1) / 2)

/-- Word lengths of at most `limit` bits for symbols of the given weights. -/
def codeLengths (limit : Nat) (weights : List Nat) : List Nat := limitedLengths limit 64 weights

/-- The number of bits that symbols of the given weights take with words of given lengths. -/
def totalBits (weights lengths : List Nat) : Nat :=
  (List.zipWith (· * ·) weights lengths).foldl (· + ·) 0

/-- The symbols of a tree with their words. -/
def CodeTree.words : CodeTree → List Bool → List (Nat × List Bool)
  | leaf symbol, path => [(symbol, path.reverse)]
  | node zero one, path => zero.words (false :: path) ++ one.words (true :: path)
  | gap, _ => []

/-- The words of the code with the given lengths, by their symbols. -/
def wordTable (lengths : List Nat) : Array (List Bool) :=
  let tree := (CodeTree.ofLengths? true lengths).getD .gap
  (tree.words []).foldl (fun a w => a.setIfInBounds w.1 w.2) (Array.replicate lengths.length [])

end StatusRegistry.Deflate
