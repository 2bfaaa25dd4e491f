import CodeTree.Proofs.Pass.NormalForm
import CodeTree.Proofs.Tree.Equality

/-! A second run after one that has removed the line markers. Markers are removed last, so a
primitive call that a marker has hidden is written as an operator by the second run only. -/
namespace CodeTree
variable {α : Type}

/-- Where an operator is restored, the tree is another one by value too. -/
theorem restore_same_iff {t : Tree} :
    (Operator.restore t).same t ↔ t.Everywhere (Rule.Refuses Operator.table) := by
  constructor
  · intro h
    induction t with
    | leaf x => exact Tree.everywhere_leaf.mpr (Operator.refuses_of_not_call nofun)
    | node head cs ih =>
      rcases Operator.step_cases (.node head cs) with ⟨hr, -⟩ | ⟨-, hw⟩
      · rw [Operator.restore_of_refuses hr, Tree.same_node_map, List.all_eq_true] at h
        exact Tree.everywhere_node.mpr ⟨hr, fun c hc => ih c hc (h c hc)⟩
      · obtain ⟨callee, args, hd⟩ := hw.exists_call
        obtain ⟨tag, htag, es, he⟩ := hw.exists_made
        rw [Operator.restore_of_step he, hd, Tag.node, Tag.node, Tree.same_node] at h
        simp only [Bool.and_eq_true, beq_iff_eq, Tag.head_inj] at h
        rw [h.1.1] at htag
        exact absurd htag (by decide)
  · intro h
    rw [Operator.restore_eq_self h]
    exact t.same_self

theorem isPlain_stripMarkers {t : Tree} (ht : t.IsPlain) : t.stripMarkers.IsPlain where
  spliced := Tree.everywhere_isSpliced_stripMarkers ht.spliced
  named := Tree.allLeaves_stripMarkers ht.named
  aliased := Tree.allLeaves_stripMarkers ht.aliased

/-- After a run that has removed the line markers, a second run returns the tree with its operators
restored. It is the same tree exactly if no primitive call has come out from under a marker. -/
theorem prettify_again_eq_iff {dump : Bool} {t r : Tree} {s s' : Session α}
    (hk : s.keepLines = false) (ht : s.aliases.Reachable) (h : (prettify dump t).run s = .ok r s')
    {β : Type} (again : Session β) (hagain : again.keepLines = false) :
    ∃ r₂ after, (prettify false r).run again = .ok r₂ after ∧
      (r₂ = r ↔ r.Everywhere (Rule.Refuses Operator.table)) ∧
      (r₂.same r ↔ r.Everywhere (Rule.Refuses Operator.table)) := by
  obtain ⟨u, table, ha, hr, -, -⟩ := prettify_ok h
  have hu : u.IsPlain := isPlain_of_renames ht.consistent (Alias.aliasAll_ok ha)
  rw [hk] at hr
  have hr : r = u.stripMarkers := hr
  have hplain : r.IsPlain := hr ▸ isPlain_stripMarkers hu
  have hunmarked : r.Everywhere Tree.IsUnmarked := hr ▸ Tree.everywhere_isUnmarked_stripMarkers u
  have hstrip : (Operator.restore r).stripped again.keepLines = Operator.restore r := by
    rw [hagain]
    exact Tree.stripMarkers_eq_self (Operator.everywhere_isUnmarked_restore hunmarked)
  obtain ⟨log, hrun⟩ := prettify_of_isPlain hplain again fun v _ => Pass.dumps_false v
  rw [hstrip] at hrun
  exact ⟨_, _, hrun, Operator.restore_eq_self_iff, restore_same_iff⟩

/-- A call that a line marker hides from the rules. -/
def hiddenCall : Tree :=
  .node "call" [.node "line" [.leaf (.integer 1)], .symbol "getindex", .symbol "a", .symbol "i"]

def shownCall : Tree :=
  .node "call" [.symbol "getindex", .symbol "a", .symbol "i"]

def writtenCall : Tree :=
  .node "ref" [.symbol "a", .symbol "i"]

/-- A run that removes line markers, with a fresh table over the packaged words. -/
def strippingSession : Session Unit :=
  { table? := some (.ofWords Alias.packagedWords .firstUnused),
    fresh := .ofWords Alias.packagedWords .firstUnused }

theorem prettify_hiddenCall :
    ∃ after, (prettify false hiddenCall).run strippingSession = .ok shownCall after := by
  have hplain : hiddenCall.IsPlain :=
    ⟨by decide, by simp [hiddenCall], by simp [hiddenCall, Alias.isGensym]; decide⟩
  have hrest : (Operator.restore hiddenCall).stripped false = shownCall := by
    decide +kernel
  obtain ⟨log, hrun⟩ :=
    prettify_of_isPlain hplain strippingSession fun v _ => Pass.dumps_false v
  exact ⟨_, hrest ▸ hrun⟩

/-- Two runs with fresh tables over the packaged words do not always give what one gives. -/
theorem prettify_twice_ne_once :
    ∃ first second, (prettify false hiddenCall).run strippingSession = .ok shownCall first ∧
      (prettify false shownCall).run strippingSession = .ok writtenCall second ∧
        writtenCall.same shownCall = false := by
  have hplain : shownCall.IsPlain :=
    ⟨by decide, by simp [shownCall], by simp [shownCall, Alias.isGensym]; decide⟩
  have hrest : (Operator.restore shownCall).stripped false = writtenCall := by
    decide +kernel
  obtain ⟨first, hfirst⟩ := prettify_hiddenCall
  obtain ⟨log, hrun⟩ := prettify_of_isPlain hplain strippingSession fun v _ => Pass.dumps_false v
  exact ⟨first, _, hfirst, hrest ▸ hrun, by rw [shownCall, writtenCall, Tree.same_node]; rfl⟩

theorem prettify_again_hiddenCall :
    strippingSession.keepLines = false ∧ strippingSession.aliases.Reachable ∧
      (∃ after, (prettify false hiddenCall).run strippingSession = .ok shownCall after) ∧
      ∃ r after, (prettify false shownCall).run strippingSession = .ok r after ∧ r ≠ shownCall := by
  obtain ⟨after, h⟩ := prettify_hiddenCall
  have ht : strippingSession.aliases.Reachable := Alias.Table.reachable_ofWords _ _
  obtain ⟨r, last, hrun, heq, -⟩ := prettify_again_eq_iff rfl ht h strippingSession rfl
  refine ⟨rfl, ht, ⟨after, h⟩, r, last, hrun, ?_⟩
  rw [Ne, heq]
  decide +kernel

end CodeTree
