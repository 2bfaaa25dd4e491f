import CodeTree.Proofs.Tree.Subtree
import CodeTree.Tree.Shape

/-! The shape of a tree as equations, and functions that keep the head and the number of children of
most nodes. -/
namespace CodeTree

namespace Tag

theorem head_injective {a b : Tag} (h : a.head = b.head) : a = b := by
  cases a <;> cases b <;> first | rfl | exact absurd h (by decide)

@[simp] theorem head_inj {a b : Tag} : a.head = b.head ↔ a = b :=
  ⟨head_injective, congrArg head⟩

@[simp] theorem node_inj {a b : Tag} {cs ds : List Tree} :
    a.node cs = b.node ds ↔ a = b ∧ cs = ds := by
  simp [node]

end Tag

namespace Tree

theorem childrenOf?_eq_some {t : Tree} {tag : Tag} {cs : List Tree} :
    t.childrenOf? tag.head = some cs ↔ t = tag.node cs := by
  cases t with
  | leaf x => simp [childrenOf?, Tag.node]
  | node h ds => simp [childrenOf?, Tag.node]

theorem pairOf?_eq_some {t a b : Tree} {tag : Tag} :
    t.pairOf? tag = some (a, b) ↔ t = tag.node [a, b] := by
  rw [← childrenOf?_eq_some]
  unfold pairOf?
  split
  · rename_i c d h
    simp [h]
  · rename_i h
    simp only [reduceCtorEq, false_iff]
    exact h a b

theorem call?_eq_some {t callee : Tree} {args : List Tree} :
    t.call? = some (callee, args) ↔ t = Tag.call.node (callee :: args) := by
  rw [← childrenOf?_eq_some]
  unfold call?
  split
  · rename_i c as h
    simp [h]
  · rename_i h
    simp only [reduceCtorEq, false_iff]
    exact h callee args

theorem callTo?_eq_some {t : Tree} {name : String} {args : List Tree} :
    t.callTo? name = some args ↔ t = Tag.call.node (.symbol name :: args) := by
  rw [← call?_eq_some]
  unfold callTo?
  split
  · rename_i callee as h
    simp [h]
  · rename_i h
    simp only [reduceCtorEq, false_iff]
    exact h name args

theorem isTagged_iff {t : Tree} {tag : Tag} : t.isTagged tag ↔ ∃ cs, t = tag.node cs := by
  cases t with
  | leaf x => simp [isTagged, Tag.node]
  | node h cs => simp [isTagged, Tag.node]

end Tree

/-- A function that changes leaves one by one and keeps every node over its changed children, except
that it may put nodes with the made tags in the place of nodes with the lost ones. -/
structure Reshaping (leafwise : Leaf → Leaf) (lost made : List Tag) (g : Tree → Tree) : Prop where
  leaf : ∀ x, g (.leaf x) = .leaf (leafwise x)
  node : ∀ h cs, g (.node h cs) = .node h (cs.map g) ∨
    ∃ old ∈ lost, ∃ new ∈ made, ∃ ds, h = old.head ∧ g (.node h cs) = new.node ds

namespace Reshaping
variable {leafwise : Leaf → Leaf} {lost made : List Tag} {g : Tree → Tree}

theorem of_leaf (hg : Reshaping leafwise lost made g) {t : Tree} {x : Leaf} (h : g t = .leaf x) :
    ∃ y, t = .leaf y ∧ leafwise y = x := by
  cases t with
  | leaf y =>
    rw [hg.leaf] at h
    exact ⟨y, rfl, by injection h⟩
  | node k cs =>
    rcases hg.node k cs with hn | ⟨_, _, new, _, ds, _, hn⟩
    · rw [hn] at h
      cases h
    · rw [hn] at h
      cases h

/-- A node whose tag is never made has been there before. -/
theorem of_node (hg : Reshaping leafwise lost made g) {t : Tree} {tag : Tag} {ds : List Tree}
    (hm : tag ∉ made) (h : g t = tag.node ds) : ∃ cs, t = tag.node cs ∧ ds = cs.map g := by
  cases t with
  | leaf y =>
    rw [hg.leaf] at h
    cases h
  | node k cs =>
    rcases hg.node k cs with hn | ⟨_, _, new, hnew, es, _, hn⟩
    · rw [hn] at h
      injection h with hk hc
      exact ⟨cs, by rw [hk]; rfl, hc.symm⟩
    · rw [hn] at h
      exact absurd ((Tag.node_inj.mp h).1 ▸ hnew) hm

/-- A node whose tag is never lost stays. -/
theorem node_of_kept (hg : Reshaping leafwise lost made g) {tag : Tag} (hl : tag ∉ lost)
    (cs : List Tree) : g (tag.node cs) = tag.node (cs.map g) := by
  rcases hg.node tag.head cs with hn | ⟨old, hold, _, _, _, hh, _⟩
  · exact hn
  · exact absurd (Tag.head_injective hh ▸ hold) hl

theorem isTagged_iff (hg : Reshaping leafwise lost made g) {t : Tree} {tag : Tag} (hm : tag ∉ made)
    (hl : tag ∉ lost) : (g t).isTagged tag ↔ t.isTagged tag := by
  rw [Tree.isTagged_iff, Tree.isTagged_iff]
  constructor
  · rintro ⟨ds, h⟩
    obtain ⟨cs, hc, _⟩ := hg.of_node hm h
    exact ⟨cs, hc⟩
  · rintro ⟨cs, rfl⟩
    exact ⟨cs.map g, hg.node_of_kept hl cs⟩

end Reshaping

theorem Tree.reshaping_mapLeaves (f : Leaf → Leaf) : Reshaping f [] [] (Tree.mapLeaves f) where
  leaf := Tree.mapLeaves_leaf f
  node h cs := .inl (Tree.mapLeaves_node f h cs)

end CodeTree
