import CodeTree.Block
import CodeTree.Proofs.Tree.Reshaping
import CodeTree.Proofs.Walk

/-! Flattened blocks and removed line markers, as conditions on every node. -/
namespace CodeTree.Tree

theorem isBlock_iff {t : Tree} : t.isBlock ↔ ∃ cs, t = Tag.block.node cs :=
  isTagged_iff

theorem isBlock_block (cs : List Tree) : (Tag.block.node cs).isBlock :=
  isBlock_iff.mpr ⟨cs, rfl⟩

/-- Induction on a tree with blocks told from all other nodes. -/
@[elab_as_elim]
theorem inductBlocks {motive : Tree → Prop} (leaf : ∀ x, motive (.leaf x))
    (block : ∀ cs, (∀ c ∈ cs, motive c) → motive (Tag.block.node cs))
    (node : ∀ h cs, h ≠ Tag.block.head → (∀ c ∈ cs, motive c) → motive (.node h cs))
    (t : Tree) : motive t := by
  induction t with
  | leaf x => exact leaf x
  | node h cs ih =>
    by_cases hh : h = Tag.block.head
    · subst hh
      exact block cs ih
    · exact node h cs hh ih

/-- No block stands directly in this one, if it is a block. -/
def IsSpliced : Tree → Prop
  | .leaf _ => True
  | .node h cs => h = Tag.block.head → ∀ c ∈ cs, ¬ c.isBlock

instance : DecidablePred IsSpliced
  | .leaf _ => inferInstanceAs (Decidable True)
  | .node h cs => inferInstanceAs (Decidable (h = Tag.block.head → ∀ c ∈ cs, ¬ c.isBlock))

section Flatten

@[simp] theorem flatten_leaf (x : Leaf) : (leaf x).flatten = .leaf x := rfl

theorem flatten_node (h : String) (cs : List Tree) :
    (node h cs).flatten = spliceBlocks (.node h (cs.map flatten)) :=
  postwalk_node spliceBlocks h cs

theorem flatten_node_of_ne {h : String} (hh : h ≠ Tag.block.head) (cs : List Tree) :
    (node h cs).flatten = .node h (cs.map flatten) := by
  rw [flatten_node, spliceBlocks, if_neg hh]

theorem flatten_block (cs : List Tree) :
    (Tag.block.node cs).flatten = Tag.block.node ((cs.map flatten).flatMap spliced) := by
  rw [Tag.node, flatten_node, spliceBlocks, if_pos rfl]
  rfl

/-- Flattening keeps the head of every tree, so a tree stays a block or a line marker. -/
theorem isTagged_flatten {t : Tree} {tag : Tag} : t.flatten.isTagged tag = t.isTagged tag := by
  cases t with
  | leaf x => rw [flatten_leaf]
  | node h cs =>
    rw [flatten_node, spliceBlocks]
    split <;> rfl

theorem reshaping_flatten : Reshaping id [.block] [.block] flatten where
  leaf := flatten_leaf
  node h cs := by
    by_cases hh : h = Tag.block.head
    · subst hh
      exact .inr ⟨.block, by simp, .block, by simp, _, rfl, flatten_block cs⟩
    · exact .inl (flatten_node_of_ne hh cs)

theorem spliced_block (cs : List Tree) : (Tag.block.node cs).spliced = cs := by
  rw [Tag.node, spliced, if_pos rfl]

theorem spliced_of_not_isBlock {t : Tree} (h : ¬ t.isBlock) : t.spliced = [t] := by
  cases t with
  | leaf x => rfl
  | node head cs =>
    rw [spliced, if_neg]
    intro hh
    exact h (isBlock_iff.mpr ⟨cs, by rw [hh]; rfl⟩)

/-- Each statement that a tree contributes is the tree itself or stands in it. -/
theorem mem_spliced {s t : Tree} (h : s ∈ t.spliced) :
    (s = t ∧ ¬ t.isBlock) ∨ ∃ cs, t = Tag.block.node cs ∧ s ∈ cs := by
  by_cases hb : t.isBlock
  · obtain ⟨cs, rfl⟩ := isBlock_iff.mp hb
    rw [spliced_block] at h
    exact .inr ⟨cs, rfl, h⟩
  · rw [spliced_of_not_isBlock hb] at h
    exact .inl ⟨List.mem_singleton.mp h, hb⟩

theorem everywhere_of_mem_spliced {p : Tree → Prop} {s t : Tree} (ht : t.Everywhere p)
    (h : s ∈ t.spliced) : s.Everywhere p := by
  rcases mem_spliced h with ⟨rfl, -⟩ | ⟨cs, rfl, hs⟩
  · exact ht
  · exact (everywhere_node.mp ht).2 s hs

/-- A property of flattened nodes holds everywhere if blocks have it and if the other nodes get it
with their flattened children. -/
theorem everywhere_flatten {p q : Tree → Prop} {t : Tree} (ht : t.Everywhere p)
    (leaf : ∀ x, p (.leaf x) → q (.leaf x))
    (block : ∀ cs : List Tree, (∀ c ∈ cs, c.flatten.Everywhere q) →
      q (Tag.block.node ((cs.map flatten).flatMap spliced)))
    (node : ∀ h (cs : List Tree), h ≠ Tag.block.head → p (.node h cs) →
      q (.node h (cs.map flatten))) :
    t.flatten.Everywhere q := by
  induction t using inductBlocks with
  | leaf x => exact everywhere_leaf.mpr (leaf x ht.self)
  | block cs ih =>
    have hc := (everywhere_node.mp ht).2
    have hq : ∀ c ∈ cs, c.flatten.Everywhere q := fun c hm => ih c hm (hc c hm)
    rw [flatten_block]
    refine everywhere_node.mpr ⟨block cs hq, ?_⟩
    intro s hs
    obtain ⟨r, hr, hs⟩ := List.mem_flatMap.mp hs
    obtain ⟨c, hm, rfl⟩ := List.mem_map.mp hr
    exact everywhere_of_mem_spliced (hq c hm) hs
  | node h cs hh ih =>
    obtain ⟨hp, hc⟩ := everywhere_node.mp ht
    rw [flatten_node_of_ne hh]
    refine everywhere_node.mpr ⟨node h cs hh hp, ?_⟩
    rintro r hr
    obtain ⟨c, hm, rfl⟩ := List.mem_map.mp hr
    exact ih c hm (hc c hm)

/-- After flattening, no block stands directly in a block. -/
theorem everywhere_isSpliced_flatten (t : Tree) : t.flatten.Everywhere IsSpliced := by
  refine everywhere_flatten (p := fun _ => True) (fun _ _ => trivial) (fun _ _ => trivial) ?_ ?_
  · intro cs hc _ s hs
    obtain ⟨r, hr, hs⟩ := List.mem_flatMap.mp hs
    obtain ⟨c, hm, rfl⟩ := List.mem_map.mp hr
    rcases mem_spliced hs with ⟨rfl, hb⟩ | ⟨ds, hd, hs⟩
    · exact hb
    · have hself := (hc c hm).self
      rw [hd] at hself
      exact hself rfl s hs
  · intro h cs hh _ he
    exact absurd he hh

theorem flatten_eq_self {t : Tree} (ht : t.Everywhere IsSpliced) : t.flatten = t := by
  have hmap {cs : List Tree} (ih : ∀ c ∈ cs, c.Everywhere IsSpliced → c.flatten = c)
      (hc : ∀ c ∈ cs, c.Everywhere IsSpliced) : cs.map flatten = cs := by
    rw [List.map_congr_left fun c hm => ih c hm (hc c hm), List.map_id']
  induction t using inductBlocks with
  | leaf x => rfl
  | block cs ih =>
    obtain ⟨hs, hc⟩ := everywhere_node.mp ht
    have hsplice : cs.flatMap spliced = cs := by
      rw [List.flatMap_def,
        List.map_congr_left fun c hm => spliced_of_not_isBlock (hs rfl c hm),
        ← List.flatMap_def, List.flatMap_singleton']
    rw [flatten_block, hmap ih hc, hsplice]
  | node h cs hh ih =>
    rw [flatten_node_of_ne hh, hmap ih (everywhere_node.mp ht).2]

theorem allLeaves_flatten {p : Leaf → Prop} {t : Tree} (ht : t.AllLeaves p) :
    t.flatten.AllLeaves p := by
  rw [allLeaves_iff_everywhere] at ht ⊢
  refine everywhere_flatten ht (fun _ h => h) ?_ ?_
  · intro cs _ x hx
    cases hx
  · intro h cs _ _ x hx
    cases hx

/-- Functions that neither make nor lose blocks keep them spliced. -/
theorem isSpliced_reshaping {leafwise : Leaf → Leaf} {lost made : List Tag} {g : Tree → Tree}
    (hg : Reshaping leafwise lost made g) (hm : .block ∉ made) (hl : .block ∉ lost) {t : Tree}
    (ht : IsSpliced t) : IsSpliced (g t) := by
  cases t with
  | leaf x =>
    rw [hg.leaf]
    trivial
  | node h cs =>
    rcases hg.node h cs with hn | ⟨old, _, new, hnew, ds, _, hn⟩
    · rw [hn]
      intro hh r hr
      obtain ⟨c, hc, rfl⟩ := List.mem_map.mp hr
      rw [isBlock, hg.isTagged_iff hm hl]
      exact ht hh c hc
    · rw [hn]
      intro hh
      exact absurd (Tag.head_injective hh ▸ hnew) hm

end Flatten

section Markers

/-- No line marker stands directly in this node. -/
def IsUnmarked : Tree → Prop
  | .leaf _ => True
  | .node _ cs => ∀ c ∈ cs, ¬ c.isLineMarker

theorem weights_filter_le (keep : Tree → Bool) (ts : List Tree) :
    weights (ts.filter keep) ≤ weights ts := by
  induction ts with
  | nil => simp
  | cons t ts ih =>
    rw [List.filter_cons]
    split
    · simp only [weights]
      omega
    · simp only [weights]
      omega

theorem tame_dropMarkers : Tame dropMarkers := by
  intro t h cs ht
  cases t with
  | leaf x => cases ht
  | node k ds =>
    injection ht with hk hc
    subst hc
    have hw := weights_filter_le (fun c => !c.isLineMarker) ds
    have hn := weight_node_ge k ds
    omega

@[simp] theorem stripMarkers_leaf (x : Leaf) : (leaf x).stripMarkers = .leaf x :=
  prewalk_of_leaf tame_dropMarkers rfl

theorem stripMarkers_node (h : String) (cs : List Tree) :
    (node h cs).stripMarkers =
      .node h ((cs.filter fun c => !c.isLineMarker).map stripMarkers) :=
  prewalk_of_node tame_dropMarkers rfl

theorem stripMarkers_tag (tag : Tag) (cs : List Tree) :
    (tag.node cs).stripMarkers =
      tag.node ((cs.filter fun c => !c.isLineMarker).map stripMarkers) :=
  stripMarkers_node tag.head cs

theorem isTagged_stripMarkers {t : Tree} {tag : Tag} :
    t.stripMarkers.isTagged tag = t.isTagged tag := by
  cases t with
  | leaf x => rw [stripMarkers_leaf]
  | node h cs =>
    rw [stripMarkers_node]
    rfl

/-- A property of stripped nodes holds everywhere if each node gets it with its kept children. -/
theorem everywhere_stripMarkers {p q : Tree → Prop} {t : Tree} (ht : t.Everywhere p)
    (leaf : ∀ x, p (.leaf x) → q (.leaf x))
    (node : ∀ h (cs : List Tree), p (.node h cs) →
      q (.node h ((cs.filter fun c => !c.isLineMarker).map stripMarkers))) :
    t.stripMarkers.Everywhere q := by
  induction t with
  | leaf x =>
    rw [stripMarkers_leaf]
    exact everywhere_leaf.mpr (leaf x ht.self)
  | node h cs ih =>
    obtain ⟨hp, hc⟩ := everywhere_node.mp ht
    rw [stripMarkers_node]
    refine everywhere_node.mpr ⟨node h cs hp, ?_⟩
    intro r hr
    obtain ⟨c, hm, rfl⟩ := List.mem_map.mp hr
    have hm := (List.mem_filter.mp hm).1
    exact ih c hm (hc c hm)

theorem everywhere_isUnmarked_stripMarkers (t : Tree) : t.stripMarkers.Everywhere IsUnmarked := by
  refine everywhere_stripMarkers (p := fun _ => True) (fun _ _ => trivial) (fun _ _ => trivial) ?_
  intro h cs _ r hr
  obtain ⟨c, hm, rfl⟩ := List.mem_map.mp hr
  rw [isLineMarker, isTagged_stripMarkers]
  simpa [isLineMarker] using (List.mem_filter.mp hm).2

theorem stripMarkers_eq_self {t : Tree} (ht : t.Everywhere IsUnmarked) : t.stripMarkers = t := by
  refine prewalk_eq_self tame_dropMarkers (ht.mono ?_)
  intro s hs
  cases s with
  | leaf x => rfl
  | node h cs =>
    rw [dropMarkers, List.filter_eq_self.mpr]
    intro c hc
    simpa using hs c hc

theorem everywhere_isSpliced_stripMarkers {t : Tree} (ht : t.Everywhere IsSpliced) :
    t.stripMarkers.Everywhere IsSpliced := by
  refine everywhere_stripMarkers ht (fun _ _ => trivial) ?_
  intro h cs hs hh r hr
  obtain ⟨c, hm, rfl⟩ := List.mem_map.mp hr
  rw [isBlock, isTagged_stripMarkers]
  exact hs hh c (List.mem_filter.mp hm).1

theorem allLeaves_stripMarkers {p : Leaf → Prop} {t : Tree} (ht : t.AllLeaves p) :
    t.stripMarkers.AllLeaves p := by
  refine allLeaves_prewalk tame_dropMarkers (fun t ht => ?_) ht
  cases t with
  | leaf x => exact ht
  | node h cs =>
    rw [dropMarkers, allLeaves_node]
    exact fun c hc => allLeaves_node.mp ht c (List.mem_filter.mp hc).1

end Markers
end CodeTree.Tree
