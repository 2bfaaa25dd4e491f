import CodeTree.Tree.Basic

/-! Equality of trees by value. The comparison keeps a list of pairs still to be compared, so it is
a loop and not a recursion on the depth of the trees. -/
namespace CodeTree.Tree

theorem sizes_map_fst_zip_le (as bs : List Tree) :
    sizes ((as.zip bs).map Prod.fst) ≤ sizes as := by
  induction as generalizing bs with
  | nil => simp [sizes]
  | cons a as ih =>
    cases bs with
    | nil => simp [sizes]
    | cons b bs =>
      have := ih bs
      simp only [List.zip_cons_cons, List.map_cons, sizes]
      omega

/-- Whether in every pair the two trees agree in heads, arities and leaves. -/
def sameAll : List (Tree × Tree) → Bool
  | [] => true
  | (.leaf x, .leaf y) :: pending => x.same y && sameAll pending
  | (.node h cs, .node k ds) :: pending =>
    h == k && cs.length == ds.length && sameAll (cs.zip ds ++ pending)
  | _ :: _ => false
termination_by pending => sizes (pending.map Prod.fst)
decreasing_by
  · simp only [List.map_cons, sizes, size]; omega
  · have := sizes_map_fst_zip_le cs ds
    simp only [List.map_cons, sizes, size, List.map_append, sizes_append]
    omega

/-- Equality inside a tree and in collections: NaN is the same leaf as itself. -/
def same (a b : Tree) : Bool :=
  sameAll [(a, b)]

/-- Equality of two operands: two leaves are compared by value alone, so NaN differs from itself. -/
def equals : Tree → Tree → Bool
  | .leaf x, .leaf y => x.equals y
  | a, b => a.same b

/-- The trees that are the same as no earlier one, the latest first. -/
def kept (ts : List Tree) : List Tree :=
  ts.foldl (fun kept t => if kept.any (·.same t) then kept else t :: kept) []

def distinct (ts : List Tree) : List Tree :=
  (kept ts).reverse

/-- What is known of a tree without going below its children. -/
inductive Outline
  | leaf (value : Leaf)
  | compound (head : String) (arity : Nat)
deriving DecidableEq

def outline : Tree → Outline
  | .leaf x => .leaf x
  | .node h cs => .compound h cs.length

/-- The head of a node and the outlines of its children. -/
def summary? : Tree → Option (String × List Outline)
  | .leaf _ => none
  | .node h cs => some (h, cs.map outline)

end CodeTree.Tree
