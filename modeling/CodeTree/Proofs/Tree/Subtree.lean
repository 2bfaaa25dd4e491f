import CodeTree.Tree.Basic

/-! The leaves and subtrees of a tree, and proofs by induction on a tree. -/
namespace CodeTree.Tree

/-- A property holds of every tree if it holds of leaves, and of a node whenever it holds of the
children. -/
@[elab_as_elim, induction_eliminator]
theorem induct {motive : Tree → Prop} (leaf : ∀ x, motive (.leaf x))
    (node : ∀ h cs, (∀ c ∈ cs, motive c) → motive (.node h cs)) (t : Tree) : motive t :=
  match t with
  | .leaf x => leaf x
  | .node h cs => node h cs fun c _ => induct leaf node c

mutual

/-- Every subtree, the tree itself included, a node before its children. -/
def subtrees : Tree → List Tree
  | .leaf x => [.leaf x]
  | .node h cs => .node h cs :: subtreesAll cs

def subtreesAll : List Tree → List Tree
  | [] => []
  | t :: ts => t.subtrees ++ subtreesAll ts

end

theorem subtreesAll_eq_flatMap (ts : List Tree) : subtreesAll ts = ts.flatMap subtrees := by
  induction ts with
  | nil => rfl
  | cons t ts ih => rw [subtreesAll, ih, List.flatMap_cons]

theorem subtrees_node (h : String) (cs : List Tree) :
    (node h cs).subtrees = .node h cs :: cs.flatMap subtrees := by
  rw [subtrees, subtreesAll_eq_flatMap]

theorem mem_subtreesAll {s : Tree} {ts : List Tree} :
    s ∈ subtreesAll ts ↔ ∃ t ∈ ts, s ∈ t.subtrees := by
  induction ts with
  | nil => simp [subtreesAll]
  | cons t ts ih => simp [subtreesAll, ih]

@[simp] theorem mem_subtrees_leaf {s : Tree} {x : Leaf} :
    s ∈ (leaf x).subtrees ↔ s = .leaf x := by
  simp [subtrees]

@[simp] theorem mem_subtrees_node {s : Tree} {h : String} {cs : List Tree} :
    s ∈ (node h cs).subtrees ↔ s = .node h cs ∨ ∃ c ∈ cs, s ∈ c.subtrees := by
  simp [subtrees, mem_subtreesAll]

theorem mem_subtrees_self (t : Tree) : t ∈ t.subtrees := by
  cases t <;> simp

theorem subtrees_eq_cons (t : Tree) : t.subtrees = t :: t.subtrees.tail := by
  cases t <;> rw [subtrees, List.tail_cons]

theorem size_le_of_mem_subtrees {s t : Tree} (h : s ∈ t.subtrees) : s.size ≤ t.size := by
  induction t with
  | leaf x =>
    obtain rfl := mem_subtrees_leaf.mp h
    exact Nat.le_refl _
  | node head cs ih =>
    rcases mem_subtrees_node.mp h with rfl | ⟨c, hc, hs⟩
    · exact Nat.le_refl _
    · have hchild := ih c hc hs
      have hsum := size_le_sizes hc
      rw [size]
      omega

/-- A property of every subtree. -/
def Everywhere (p : Tree → Prop) (t : Tree) : Prop :=
  ∀ s ∈ t.subtrees, p s

section
variable {p q : Tree → Prop}

@[simp] theorem everywhere_leaf {x : Leaf} : Everywhere p (.leaf x) ↔ p (.leaf x) := by
  simp [Everywhere]

@[simp] theorem everywhere_node {h : String} {cs : List Tree} :
    Everywhere p (.node h cs) ↔ p (.node h cs) ∧ ∀ c ∈ cs, Everywhere p c := by
  simp only [Everywhere, mem_subtrees_node]
  constructor
  · intro ha
    exact ⟨ha _ (.inl rfl), fun c hc s hs => ha s (.inr ⟨c, hc, hs⟩)⟩
  · rintro ⟨hn, hc⟩ s (rfl | ⟨c, hm, hs⟩)
    · exact hn
    · exact hc c hm s hs

theorem Everywhere.self {t : Tree} (h : Everywhere p t) : p t :=
  h t (mem_subtrees_self t)

theorem Everywhere.of_mem {s t : Tree} (h : Everywhere p t) (hs : s ∈ t.subtrees) :
    Everywhere p s := by
  induction t with
  | leaf x =>
    obtain rfl := mem_subtrees_leaf.mp hs
    exact h
  | node head cs ih =>
    rcases mem_subtrees_node.mp hs with rfl | ⟨c, hc, hs⟩
    · exact h
    · exact ih c hc ((everywhere_node.mp h).2 c hc) hs

theorem Everywhere.mono {t : Tree} (h : Everywhere p t) (hpq : ∀ s, p s → q s) :
    Everywhere q t :=
  fun s hs => hpq s (h s hs)

end

instance {p : Tree → Prop} [DecidablePred p] (t : Tree) : Decidable (Everywhere p t) :=
  inferInstanceAs (Decidable (∀ s ∈ t.subtrees, p s))

/-- A property of every leaf. -/
def AllLeaves (p : Leaf → Prop) (t : Tree) : Prop :=
  ∀ x, .leaf x ∈ t.subtrees → p x

section
variable {p q : Leaf → Prop}

@[simp] theorem allLeaves_leaf {x : Leaf} : AllLeaves p (.leaf x) ↔ p x := by
  simp [AllLeaves]

@[simp] theorem allLeaves_node {h : String} {cs : List Tree} :
    AllLeaves p (.node h cs) ↔ ∀ c ∈ cs, AllLeaves p c := by
  simp only [AllLeaves, mem_subtrees_node, reduceCtorEq, false_or]
  constructor
  · intro ha c hc x hx
    exact ha x ⟨c, hc, hx⟩
  · rintro hc x ⟨c, hm, hx⟩
    exact hc c hm x hx

theorem allLeaves_iff_everywhere {t : Tree} :
    t.AllLeaves p ↔ t.Everywhere fun s => ∀ x, s = .leaf x → p x := by
  constructor
  · rintro h s hs x rfl
    exact h x hs
  · intro h x hx
    exact h _ hx x rfl

instance [DecidablePred p] (t : Tree) : Decidable (AllLeaves p t) :=
  have : DecidablePred fun s : Tree => ∀ x, s = .leaf x → p x
    | .leaf x => decidable_of_iff (p x) ⟨fun h _ hx => Tree.leaf.inj hx ▸ h, fun h => h x rfl⟩
    | .node _ _ => isTrue nofun
  decidable_of_iff _ allLeaves_iff_everywhere.symm

theorem AllLeaves.mono {t : Tree} (h : AllLeaves p t) (hpq : ∀ x, p x → q x) : AllLeaves q t :=
  fun x hx => hpq x (h x hx)

end

mutual

/-- The tree with every leaf replaced. -/
def mapLeaves (f : Leaf → Leaf) : Tree → Tree
  | .leaf x => .leaf (f x)
  | .node h cs => .node h (mapLeavesAll f cs)

def mapLeavesAll (f : Leaf → Leaf) : List Tree → List Tree
  | [] => []
  | t :: ts => t.mapLeaves f :: mapLeavesAll f ts

end

theorem mapLeavesAll_eq_map (f : Leaf → Leaf) (ts : List Tree) :
    mapLeavesAll f ts = ts.map (mapLeaves f) := by
  induction ts with
  | nil => rfl
  | cons t ts ih => rw [mapLeavesAll, ih, List.map_cons]

@[simp] theorem mapLeaves_leaf (f : Leaf → Leaf) (x : Leaf) :
    (leaf x).mapLeaves f = .leaf (f x) := by
  rw [mapLeaves]

@[simp] theorem mapLeaves_node (f : Leaf → Leaf) (h : String) (cs : List Tree) :
    (node h cs).mapLeaves f = .node h (cs.map (mapLeaves f)) := by
  rw [mapLeaves, mapLeavesAll_eq_map]

theorem mapLeaves_congr {f g : Leaf → Leaf} {t : Tree} (h : t.AllLeaves fun x => f x = g x) :
    t.mapLeaves f = t.mapLeaves g := by
  induction t with
  | leaf x => rw [mapLeaves_leaf, mapLeaves_leaf, allLeaves_leaf.mp h]
  | node head cs ih =>
    rw [mapLeaves_node, mapLeaves_node,
      List.map_congr_left fun c hc => ih c hc (allLeaves_node.mp h c hc)]

theorem mapLeaves_mapLeaves (f g : Leaf → Leaf) (t : Tree) :
    (t.mapLeaves f).mapLeaves g = t.mapLeaves fun x => g (f x) := by
  induction t with
  | leaf x => simp only [mapLeaves_leaf]
  | node head cs ih =>
    rw [mapLeaves_node, mapLeaves_node, mapLeaves_node, List.map_map]
    exact congrArg (node head) (List.map_congr_left ih)

/-- A function that keeps every leaf keeps the tree. -/
theorem mapLeaves_eq_self {f : Leaf → Leaf} {t : Tree} (h : t.AllLeaves fun x => f x = x) :
    t.mapLeaves f = t := by
  induction t with
  | leaf x => rw [mapLeaves_leaf, allLeaves_leaf.mp h]
  | node head cs ih =>
    have hc : cs.map (mapLeaves f) = cs.map id :=
      List.map_congr_left fun c hc => ih c hc (allLeaves_node.mp h c hc)
    rw [mapLeaves_node, hc, List.map_id]

theorem allLeaves_mapLeaves {f : Leaf → Leaf} {p : Leaf → Prop} {t : Tree} :
    (t.mapLeaves f).AllLeaves p ↔ t.AllLeaves fun x => p (f x) := by
  induction t with
  | leaf x => simp
  | node head cs ih =>
    simp only [mapLeaves_node, allLeaves_node, List.forall_mem_map]
    exact forall₂_congr ih

theorem everywhere_mapLeaves {f : Leaf → Leaf} {p : Tree → Prop} {t : Tree} :
    (t.mapLeaves f).Everywhere p ↔ t.Everywhere fun s => p (s.mapLeaves f) := by
  induction t with
  | leaf x => simp
  | node head cs ih =>
    simp only [mapLeaves_node, everywhere_node, List.forall_mem_map]
    exact and_congr_right fun _ => forall₂_congr ih

end CodeTree.Tree
