import CodeTree.Proofs.Block

/-! Removing line markers deletes them and nothing else, and it makes no difference whether it comes
before flattening or after it. -/
namespace CodeTree.Tree

mutual

/-- The tree with every line marker below the root deleted, together with all that stands in it. -/
def withoutMarkers : Tree → Tree
  | .leaf x => .leaf x
  | .node h cs => .node h (withoutMarkersAll cs)

def withoutMarkersAll : List Tree → List Tree
  | [] => []
  | t :: ts =>
    if t.isLineMarker then withoutMarkersAll ts else t.withoutMarkers :: withoutMarkersAll ts

end

theorem withoutMarkersAll_eq_map (ts : List Tree) :
    withoutMarkersAll ts = (ts.filter fun t => !t.isLineMarker).map withoutMarkers := by
  induction ts with
  | nil => rfl
  | cons t ts ih =>
    rw [withoutMarkersAll, List.filter_cons, ih]
    by_cases ht : t.isLineMarker
    · rw [if_pos ht, if_neg (by simp [ht])]
    · rw [if_neg ht, if_pos (by simp [ht]), List.map_cons]

/-- The walk goes on into the children that it has kept, and so deletes at every depth. -/
theorem stripMarkers_eq_withoutMarkers (t : Tree) : t.stripMarkers = t.withoutMarkers := by
  induction t with
  | leaf x => rw [stripMarkers_leaf, withoutMarkers]
  | node h cs ih =>
    rw [stripMarkers_node, withoutMarkers, withoutMarkersAll_eq_map,
      List.map_congr_left fun c hc => ih c (List.mem_filter.mp hc).1]

/-- Where no node holds a line marker, only the root can be one. -/
theorem not_isLineMarker_below {s t : Tree} (ht : t.Everywhere IsUnmarked)
    (hs : s ∈ t.subtrees.tail) : ¬ s.isLineMarker := by
  induction t with
  | leaf x => cases hs
  | node h cs ih =>
    obtain ⟨hroot, hcs⟩ := everywhere_node.mp ht
    rw [subtrees_node, List.tail_cons, List.mem_flatMap] at hs
    obtain ⟨c, hc, hs⟩ := hs
    rw [subtrees_eq_cons, List.mem_cons] at hs
    rcases hs with rfl | hs
    · exact hroot s hc
    · exact ih c hc (hcs c hc) hs

section Commutation

/-- What is left of the statements that a tree contributes: nothing of a line marker, and of any
other tree what it contributes once it is stripped. -/
theorem stripped_spliced (t : Tree) :
    (t.spliced.filter fun s => !s.isLineMarker).map stripMarkers =
      if t.isLineMarker then [] else t.stripMarkers.spliced := by
  by_cases hb : t.isBlock
  · obtain ⟨cs, rfl⟩ := isBlock_iff.mp hb
    have hline : ¬ (Tag.block.node cs).isLineMarker := by
      simp [isLineMarker, isTagged, Tag.node]
    rw [if_neg hline, stripMarkers_tag, spliced_block, spliced_block]
  · have hstripped : ¬ t.stripMarkers.isBlock := by
      rwa [isBlock, isTagged_stripMarkers]
    rw [spliced_of_not_isBlock hb, spliced_of_not_isBlock hstripped, List.filter_cons,
      List.filter_nil]
    cases t.isLineMarker <;> rfl

/-- The children of a block after both walks, in either order. -/
theorem spliced_stripped_all {cs : List Tree}
    (hcs : ∀ c ∈ cs, c.stripMarkers.flatten = c.flatten.stripMarkers) :
    (((cs.filter fun c => !c.isLineMarker).map stripMarkers).map flatten).flatMap spliced =
      (((cs.map flatten).flatMap spliced).filter fun s => !s.isLineMarker).map stripMarkers := by
  induction cs with
  | nil => rfl
  | cons c cs ih =>
    obtain ⟨hc, hcs⟩ := List.forall_mem_cons.mp hcs
    have hline : c.flatten.isLineMarker = c.isLineMarker := isTagged_flatten
    rw [List.map_cons, List.flatMap_cons, List.filter_append, List.map_append, stripped_spliced,
      hline, ← hc, ← ih hcs]
    by_cases hm : c.isLineMarker
    · rw [List.filter_cons_of_neg (by simp [hm]), if_pos hm, List.nil_append]
    · rw [List.filter_cons_of_pos (by simp [hm]), if_neg hm, List.map_cons, List.map_cons,
        List.flatMap_cons]

/-- Stripping first and flattening first give the same tree. -/
theorem flatten_stripMarkers (t : Tree) : t.stripMarkers.flatten = t.flatten.stripMarkers := by
  induction t using inductBlocks with
  | leaf x => rw [stripMarkers_leaf, flatten_leaf, stripMarkers_leaf]
  | block cs ih =>
    rw [flatten_block, stripMarkers_tag, stripMarkers_tag, flatten_block, spliced_stripped_all ih]
  | node h cs hh ih =>
    have hline : ∀ c : Tree, c.flatten.isLineMarker = c.isLineMarker := fun c => isTagged_flatten
    have hkept : (cs.map flatten).filter (fun c => !c.isLineMarker) =
        (cs.filter fun c => !c.isLineMarker).map flatten := by
      rw [List.filter_map]
      simp only [Function.comp_def, hline]
    rw [flatten_node_of_ne hh, stripMarkers_node, stripMarkers_node, flatten_node_of_ne hh, hkept,
      List.map_map, List.map_map]
    exact congrArg (node h) (List.map_congr_left fun c hc => ih c (List.mem_filter.mp hc).1)

end Commutation

/-- Stripping deletes the line markers below the root, and these alone, so that none is left there,
and it can change places with flattening. -/
theorem stripMarkers_deletes_markers (t : Tree) :
    (∀ s ∈ t.stripMarkers.subtrees.tail, ¬ s.isLineMarker) ∧
      t.stripMarkers = t.withoutMarkers ∧ t.stripMarkers.flatten = t.flatten.stripMarkers := by
  have hunmarked := everywhere_isUnmarked_stripMarkers t
  refine ⟨fun s hs => not_isLineMarker_below hunmarked hs, ?_, ?_⟩
  · exact stripMarkers_eq_withoutMarkers t
  · exact flatten_stripMarkers t

end CodeTree.Tree
