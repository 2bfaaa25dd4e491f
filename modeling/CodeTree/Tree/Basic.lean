import CodeTree.Tree.Leaf

/-! Code trees: leaves, and nodes with a head and an ordered list of children. -/
namespace CodeTree

inductive Tree
  | leaf (value : Leaf)
  | node (head : String) (children : List Tree)
deriving Inhabited

namespace Tree

abbrev nothing : Tree := .leaf .nothing

abbrev symbol (name : String) : Tree := .leaf (.symbol name)

mutual

/-- Equality of trees, leaf by leaf, is decidable. -/
def decEq : (a b : Tree) → Decidable (a = b)
  | .leaf x, .leaf y =>
    if h : x = y then isTrue (by rw [h]) else isFalse fun e => h (by injection e)
  | .node h cs, .node k ds =>
    if hk : h = k then
      match decEqList cs ds with
      | isTrue e => isTrue (by rw [hk, e])
      | isFalse n => isFalse fun e => n (by injection e)
    else isFalse fun e => hk (by injection e)
  | .leaf _, .node .. => isFalse fun e => by injection e
  | .node .., .leaf _ => isFalse fun e => by injection e

def decEqList : (as bs : List Tree) → Decidable (as = bs)
  | [], [] => isTrue rfl
  | a :: as, b :: bs =>
    match decEq a b, decEqList as bs with
    | isTrue h, isTrue t => isTrue (by rw [h, t])
    | isFalse n, _ => isFalse fun e => n (by injection e)
    | _, isFalse n => isFalse fun e => n (by injection e)
  | [], _ :: _ => isFalse fun e => by injection e
  | _ :: _, [] => isFalse fun e => by injection e

end

instance : DecidableEq Tree := decEq

mutual

/-- Number of leaves and nodes. -/
def size : Tree → Nat
  | .leaf _ => 1
  | .node _ cs => 1 + sizes cs

def sizes : List Tree → Nat
  | [] => 0
  | t :: ts => t.size + sizes ts

end

theorem size_pos (t : Tree) : 0 < t.size := by
  cases t <;> simp only [size] <;> omega

theorem size_le_sizes {t : Tree} {ts : List Tree} (h : t ∈ ts) : t.size ≤ sizes ts := by
  induction ts with
  | nil => cases h
  | cons a as ih =>
    simp only [sizes]
    cases h with
    | head => omega
    | tail _ h => have := ih h; omega

theorem sizes_append (as bs : List Tree) : sizes (as ++ bs) = sizes as + sizes bs := by
  induction as with
  | nil => simp [sizes]
  | cons a as ih => simp only [List.cons_append, sizes, ih]; omega

end Tree
end CodeTree
