import CodeTree.Proofs.Definition.Form
import CodeTree.Proofs.Operator

/-! Trees in which every definition has the form that is asked for, and the passes that keep them
so. -/
namespace CodeTree.Definition

section Reached

theorem refuses_lengthenAll (t : Tree) : Rule.Refuses lengthening (lengthenAll t) := by
  rcases lengthen_cases t with ⟨hr, heq⟩ | hl
  · cases t with
    | leaf x => exact (reshaping_lengthenAll.leaf x).symm ▸ hr
    | node h cs =>
      rw [lengthenAll_of_node heq]
      exact refuses_lengthening_map reshaping_lengthenAll (by decide) (by decide) hr
  · obtain ⟨-, cs, hc⟩ := hl.exists_tags
    rw [lengthenAll_of_node hc]
    apply refuses_lengthening_of_ne <;> simp [Tag.node]

/-- No rule lengthens a node of a tree in long form. -/
theorem everywhere_refuses_lengthenAll (t : Tree) :
    (lengthenAll t).Everywhere (Rule.Refuses lengthening) :=
  everywhere_prewalk (p := fun _ => True) tame_lengthen (fun t _ => refuses_lengthenAll t)
    (fun _ _ _ _ _ _ _ _ _ => trivial) fun _ _ => trivial

theorem lengthenAll_eq_self {t : Tree} (ht : t.Everywhere (Rule.Refuses lengthening)) :
    lengthenAll t = t :=
  prewalk_eq_self tame_lengthen (ht.mono fun _ hs => Rule.transform_of_refuses hs)

theorem settled_shortenAll (t : Tree) : Settled (shortenAll t) := by
  rcases shorten_cases t with ⟨hr, heq⟩ | hs
  · cases t with
    | leaf x => exact (reshaping_shortenAll.leaf x).symm ▸ settled_of_refuses hr
    | node h cs =>
      rw [shortenAll_of_node heq]
      refine settled_map reshaping_shortenAll (by decide) (by decide) (by decide) ?_ ?_
        (settled_of_refuses hr)
      · intro s
        exact (reshaping_shortenAll.isTagged_iff (by decide) (by decide)).mp
      · intro s args h
        obtain ⟨cs, hc, -⟩ := reshaping_shortenAll.of_node (by decide) h
        exact .inl ⟨cs, hc⟩
  · rcases hs.assign_or_arrow with ⟨cs, hc⟩ | ⟨args, body, hc⟩
    · rw [shortenAll_of_node hc]
      apply settled_of_ne <;> simp [Tag.node]
    · have htuple : shortenAll (Tag.tuple.node args) = Tag.tuple.node (args.map shortenAll) :=
        reshaping_shortenAll.node_of_kept (by decide) args
      rw [shortenAll_of_node hc, List.map_cons, htuple]
      exact settled_arrow_tuple _ _

/-- Shortening leaves every node of a tree in short form alone. -/
theorem everywhere_settled_shortenAll (t : Tree) : (shortenAll t).Everywhere Settled :=
  everywhere_prewalk (p := fun _ => True) tame_shorten (fun t _ => settled_shortenAll t)
    (fun _ _ _ _ _ _ _ _ _ => trivial) fun _ _ => trivial

theorem shortenAll_eq_self {t : Tree} (ht : t.Everywhere Settled) : shortenAll t = t :=
  prewalk_eq_self tame_shorten (ht.mono fun _ hs => shorten_eq_self_iff.mpr hs)

end Reached

section Leaves
variable {p : Leaf → Prop} {t : Tree}

theorem allLeaves_toBlock (ht : t.AllLeaves p) : t.toBlock.AllLeaves p := by
  unfold Tree.toBlock Tree.wrapped
  split
  · exact ht
  · exact Tree.allLeaves_node.mpr (by simpa using ht)

theorem Lengthened.allLeaves {r : Tree} (h : Lengthened t r) (ht : t.AllLeaves p) :
    r.AllLeaves p := by
  cases h <;> simp only [Tag.node, Tree.allLeaves_node, List.forall_mem_cons] at ht ⊢
  all_goals obtain ⟨hs, hb, -⟩ := ht
  · exact ⟨hs, allLeaves_toBlock hb, List.forall_mem_nil _⟩
  · exact ⟨hs, allLeaves_toBlock hb, List.forall_mem_nil _⟩
  · exact ⟨⟨hs, List.forall_mem_nil _⟩, allLeaves_toBlock hb, List.forall_mem_nil _⟩

theorem Shortened.allLeaves {r : Tree} (h : Shortened t r) (ht : t.AllLeaves p) :
    r.AllLeaves p := by
  cases h <;> simp only [Tag.node, Tree.allLeaves_node, List.forall_mem_cons] at ht ⊢
  all_goals obtain ⟨hs, hb, -⟩ := ht
  · exact ⟨hs, hb, List.forall_mem_nil _⟩
  · exact ⟨hs, hb, List.forall_mem_nil _⟩
  · exact ⟨hs, hb, List.forall_mem_nil _⟩
  · exact ⟨⟨hs, List.forall_mem_nil _⟩, hb, List.forall_mem_nil _⟩

theorem allLeaves_lengthenAll (ht : t.AllLeaves p) : (lengthenAll t).AllLeaves p := by
  refine allLeaves_prewalk tame_lengthen (fun t ht => ?_) ht
  rcases lengthen_cases t with ⟨-, heq⟩ | hl
  · rwa [heq]
  · exact hl.allLeaves ht

theorem allLeaves_shortenAll (ht : t.AllLeaves p) : (shortenAll t).AllLeaves p := by
  refine allLeaves_prewalk tame_shorten (fun t ht => ?_) ht
  rcases shorten_cases t with ⟨-, heq⟩ | hs
  · rwa [heq]
  · exact hs.allLeaves ht

end Leaves

section Kept

theorem everywhere_refuses_flatten {t : Tree} (ht : t.Everywhere (Rule.Refuses lengthening)) :
    t.flatten.Everywhere (Rule.Refuses lengthening) := by
  refine Tree.everywhere_flatten ht (fun _ h => h) ?_ ?_
  · intro cs _
    apply refuses_lengthening_of_ne <;> simp
  · intro h cs _ hr
    exact refuses_lengthening_map Tree.reshaping_flatten (by decide) (by decide) hr

theorem everywhere_settled_flatten {t : Tree} (ht : t.Everywhere Settled) :
    t.flatten.Everywhere Settled := by
  refine Tree.everywhere_flatten ht (fun _ h => h) ?_ ?_
  · intro cs _
    apply settled_of_ne <;> simp
  · intro h cs _ hs
    refine settled_map Tree.reshaping_flatten (by decide) (by decide) (by decide) ?_ ?_ hs
    · intro t ht
      rwa [Tree.isBlock, Tree.isTagged_flatten] at ht
    · intro t args hargs
      obtain ⟨cs, hc, -⟩ := Tree.reshaping_flatten.of_node (by decide) hargs
      exact .inl ⟨cs, hc⟩

theorem everywhere_refuses_mapLeaves (f : Leaf → Leaf) {t : Tree}
    (ht : t.Everywhere (Rule.Refuses lengthening)) :
    (t.mapLeaves f).Everywhere (Rule.Refuses lengthening) := by
  rw [Tree.everywhere_mapLeaves]
  refine ht.mono fun s hs => ?_
  cases s with
  | leaf x => apply refuses_lengthening_of_ne <;> simp [Tag.node]
  | node h cs =>
    rw [Tree.mapLeaves_node]
    exact refuses_lengthening_map (Tree.reshaping_mapLeaves f) (by decide) (by decide) hs

theorem everywhere_settled_mapLeaves (f : Leaf → Leaf) {t : Tree} (ht : t.Everywhere Settled) :
    (t.mapLeaves f).Everywhere Settled := by
  have hf := Tree.reshaping_mapLeaves f
  rw [Tree.everywhere_mapLeaves]
  refine ht.mono fun s hs => ?_
  cases s with
  | leaf x => apply settled_of_ne <;> simp [Tag.node]
  | node h cs =>
    rw [Tree.mapLeaves_node]
    refine settled_map hf (by decide) (by decide) (by decide) ?_ ?_ hs
    · exact fun t => (hf.isTagged_iff (by decide) (by decide)).mp
    · intro t args hargs
      obtain ⟨cs, hc, -⟩ := hf.of_node (by decide) hargs
      exact .inl ⟨cs, hc⟩

/-- An assignment to a field is no definition. -/
theorem refuses_lengthening_written {t r : Tree} (hw : Operator.Written t r)
    (hr : Rule.transform Operator.table t = r) :
    Rule.Refuses lengthening (Operator.restore t) := by
  cases hw with
  | increment object name current step =>
    rw [Operator.restore_of_step hr]
    apply refuses_lengthening_of_ne <;> simp
  | assignment object name value =>
    have hdot : Operator.restore (Operator.fieldAccess object name) =
        Tag.dot.node ([object, name].map Operator.restore) :=
      Operator.reshaping_restore.node_of_kept (by decide) _
    rw [Operator.restore_of_step hr, List.map_cons, hdot, refuses_lengthening_iff]
    refine ⟨?_, by simp⟩
    intro signature body heq hs
    obtain ⟨-, heq⟩ := Tag.node_inj.mp heq
    injection heq with heq _
    rw [← heq] at hs
    generalize hd : Tag.dot.node ([object, name].map Operator.restore) = s at hs
    cases hs with
    | call callee args => exact absurd (Tag.node_inj.mp hd).1 (by decide)
    | typed callee args result => exact absurd (Tag.node_inj.mp hd).1 (by decide)
  | @operator tag htag callee args =>
    rw [Operator.restore_of_step hr]
    apply refuses_lengthening_of_ne
    all_goals
      intro cs h
      rw [(Tag.node_inj.mp h).1] at htag
      exact absurd htag (by decide)

theorem everywhere_refuses_restore {t : Tree} (ht : t.Everywhere (Rule.Refuses lengthening)) :
    (Operator.restore t).Everywhere (Rule.Refuses lengthening) := by
  refine everywhere_prewalk Operator.tame_step ?_ ?_ ht
  · intro t ht
    change Rule.Refuses lengthening (Operator.restore t)
    rcases Operator.step_cases t with ⟨hr, -⟩ | ⟨-, hw⟩
    · cases t with
      | leaf x => exact (Operator.reshaping_restore.leaf x).symm ▸ ht.self
      | node h cs =>
        rw [Operator.restore_of_refuses hr]
        exact refuses_lengthening_map Operator.reshaping_restore (by decide) (by decide) ht.self
    · exact refuses_lengthening_written hw rfl
  · intro t h cs hs ht
    refine Operator.everywhere_of_step (fun _ _ _ _ _ _ _ => ?_) hs ht
    apply refuses_lengthening_of_ne <;> simp [Operator.fieldAccess]

/-- Only signatures become tuples when operators are restored. -/
theorem isSignature_of_restore_tuple {t : Tree} {args : List Tree}
    (h : Operator.restore t = Tag.tuple.node args) :
    (∃ args, t = Tag.tuple.node args) ∨ IsSignature t := by
  rcases Operator.tuple_or_call_of_restore h with htuple | ⟨cs, rfl⟩
  · exact .inl htuple
  · exact .inr (.call _ cs)

theorem everywhere_settled_restore {t : Tree} (ht : t.Everywhere Settled) :
    (Operator.restore t).Everywhere Settled := by
  have hres := Operator.reshaping_restore
  refine everywhere_prewalk Operator.tame_step ?_ ?_ ht
  · intro t ht
    change Settled (Operator.restore t)
    rcases Operator.step_cases t with ⟨hr, -⟩ | ⟨-, hw⟩
    · cases t with
      | leaf x => exact (hres.leaf x).symm ▸ ht.self
      | node h cs =>
        rw [Operator.restore_of_refuses hr]
        refine settled_map hres (by decide) (by decide) (by decide) ?_ ?_ ht.self
        · exact fun t => (hres.isTagged_iff (by decide) (by decide)).mp
        · exact fun t args => isSignature_of_restore_tuple
    · obtain ⟨tag, htag, cs, hc⟩ := hw.exists_made
      rw [Operator.restore_of_step hc]
      apply settled_of_ne
      all_goals
        intro ds h
        rw [(Tag.node_inj.mp h).1] at htag
        exact absurd htag (by decide)
  · intro t h cs hs ht
    refine Operator.everywhere_of_step (fun _ _ _ _ _ _ _ => ?_) hs ht
    apply settled_of_ne <;> simp [Operator.fieldAccess]

end Kept
end CodeTree.Definition
