import CodeTree.Proofs.Definition.Stable

/-! The long and the short form of a tree say the same: each is reached in one walk, and the long
form does not depend on whether the tree was shortened before. -/
namespace CodeTree

theorem Tree.wrapped_of_isTagged {tag : Tag} {t : Tree} (h : t.isTagged tag) :
    t.wrapped tag = t := by
  rw [wrapped, if_pos h]

theorem Tree.toBlock_of_isBlock {t : Tree} (h : t.isBlock) : t.toBlock = t :=
  wrapped_of_isTagged h

theorem Tree.wrapped_node (tag : Tag) (cs : List Tree) :
    (tag.node cs).wrapped tag = tag.node cs :=
  wrapped_of_isTagged (isTagged_iff.mpr ⟨cs, rfl⟩)

theorem Tree.wrapped_of_ne {tag : Tag} {t : Tree} (h : ∀ cs, t ≠ tag.node cs) :
    t.wrapped tag = tag.node [t] := by
  rw [wrapped, if_neg fun ht => ?_]
  obtain ⟨cs, hc⟩ := isTagged_iff.mp ht
  exact h cs hc

/-- A function that neither makes nor loses a tag changes what is inside a wrapper of that tag. -/
theorem Reshaping.wrapped {leafwise : Leaf → Leaf} {lost made : List Tag} {g : Tree → Tree}
    (hg : Reshaping leafwise lost made g) {tag : Tag} (hm : tag ∉ made) (hl : tag ∉ lost)
    (t : Tree) : g (t.wrapped tag) = (g t).wrapped tag := by
  have htag := hg.isTagged_iff (t := t) hm hl
  unfold Tree.wrapped
  by_cases h : t.isTagged tag
  · rw [if_pos h, if_pos (htag.mpr h)]
  · rw [if_neg h, if_neg fun hn => h (htag.mp hn)]
    exact hg.node_of_kept hl [t]

namespace Definition

theorem lengthen_assign {signature : Tree} (hs : IsSignature signature) (body : Tree) :
    lengthen (Tag.assign.node [signature, body]) =
      Tag.function.node [signature, body.toBlock] := by
  cases hs <;> rfl

theorem lengthen_arrow (arg body : Tree) :
    lengthen (Tag.arrow.node [arg, body]) =
      Tag.function.node [arg.wrapped .tuple, body.toBlock] := by
  rcases lengthen_cases (Tag.arrow.node [arg, body]) with ⟨hr, -⟩ | hl
  · exact absurd rfl ((refuses_lengthening_iff.mp hr).2 arg body)
  · generalize ht : Tag.arrow.node [arg, body] = t at hl
    generalize lengthen t = r at hl
    cases hl with
    | named hs b => exact absurd (Tag.node_inj.mp ht).1 (by decide)
    | tuple args b =>
      obtain ⟨-, ht⟩ := Tag.node_inj.mp ht
      cases ht
      rw [Tree.wrapped_node]
    | @single a h b =>
      obtain ⟨-, ht⟩ := Tag.node_inj.mp ht
      cases ht
      rw [Tree.wrapped_of_ne h]

theorem lengthenAll_function (signature body : Tree) :
    lengthenAll (Tag.function.node [signature, body]) =
      Tag.function.node [lengthenAll signature, lengthenAll body] :=
  reshaping_lengthenAll.node_of_kept (by decide) _

theorem lengthenAll_tuple (args : List Tree) :
    lengthenAll (Tag.tuple.node args) = Tag.tuple.node (args.map lengthenAll) :=
  reshaping_lengthenAll.node_of_kept (by decide) args

theorem lengthenAll_toBlock (t : Tree) : lengthenAll t.toBlock = (lengthenAll t).toBlock := by
  have hblock : Tag.block ∉ [Tag.assign, .arrow] := by decide
  exact reshaping_lengthenAll.wrapped (by decide) hblock t

theorem isSignature_lengthenAll {t : Tree} (h : IsSignature t) : IsSignature (lengthenAll t) := by
  have hcall (callee : Tree) (args : List Tree) :
      lengthenAll (Tag.call.node (callee :: args)) =
        Tag.call.node (lengthenAll callee :: args.map lengthenAll) :=
    reshaping_lengthenAll.node_of_kept (by decide) _
  cases h with
  | call callee args =>
    rw [hcall]
    exact .call _ _
  | typed callee args result =>
    have htyped : lengthenAll (Tag.typed.node [Tag.call.node (callee :: args), result]) =
        Tag.typed.node [lengthenAll (Tag.call.node (callee :: args)), lengthenAll result] :=
      reshaping_lengthenAll.node_of_kept (by decide) _
    rw [htyped, hcall]
    exact .typed _ _ _

theorem lengthenAll_assign {signature : Tree} (hs : IsSignature signature) (body : Tree) :
    lengthenAll (Tag.assign.node [signature, body]) =
      Tag.function.node [lengthenAll signature, (lengthenAll body).toBlock] := by
  rw [lengthenAll_of_node (lengthen_assign hs body), ← lengthenAll_toBlock]
  rfl

theorem lengthenAll_arrow (arg body : Tree) :
    lengthenAll (Tag.arrow.node [arg, body]) =
      Tag.function.node [(lengthenAll arg).wrapped .tuple, (lengthenAll body).toBlock] := by
  have harg : lengthenAll (arg.wrapped .tuple) = (lengthenAll arg).wrapped .tuple :=
    reshaping_lengthenAll.wrapped (by decide) (by decide) arg
  rw [lengthenAll_of_node (lengthen_arrow arg body), ← lengthenAll_toBlock, ← harg]
  rfl

/-- The long form of a node is the long form of the node over lengthened children. -/
theorem lengthenAll_node (h : String) (cs : List Tree) :
    lengthenAll (.node h cs) = lengthen (.node h (cs.map lengthenAll)) := by
  rcases lengthen_cases (.node h cs) with ⟨-, heq⟩ | hl
  · have hrefuses := refuses_lengthenAll (.node h cs)
    rw [lengthenAll_of_node heq] at hrefuses ⊢
    exact (Rule.transform_of_refuses hrefuses).symm
  · generalize ht : Tree.node h cs = t at hl
    generalize lengthen t = r at hl
    cases hl with
    | @named signature hs body =>
      obtain ⟨rfl, rfl⟩ := Tree.node.inj ht
      exact (lengthenAll_assign hs body).trans (lengthen_assign (isSignature_lengthenAll hs) _).symm
    | tuple args body =>
      obtain ⟨rfl, rfl⟩ := Tree.node.inj ht
      exact (lengthenAll_arrow _ body).trans (lengthen_arrow _ _).symm
    | @single arg hn body =>
      obtain ⟨rfl, rfl⟩ := Tree.node.inj ht
      exact (lengthenAll_arrow arg body).trans (lengthen_arrow _ _).symm

/-- Shortening one definition does not change the long form of the tree. -/
theorem lengthenAll_shorten (t : Tree) : lengthenAll (shorten t) = lengthenAll t := by
  rcases shorten_cases t with ⟨-, heq⟩ | hs
  · rw [heq]
  · generalize shorten t = r at hs
    cases hs with
    | @named signature body h hb =>
      rw [lengthenAll_assign h, lengthenAll_function, ← lengthenAll_toBlock,
        Tree.toBlock_of_isBlock hb]
    | @anonymous args body hb =>
      rw [lengthenAll_arrow, lengthenAll_function, ← lengthenAll_toBlock,
        Tree.toBlock_of_isBlock hb, lengthenAll_tuple, Tree.wrapped_node]
    | tuple args body => rfl
    | @single arg h body =>
      have harg : (lengthenAll arg).wrapped .tuple = lengthenAll (Tag.tuple.node [arg]) := by
        rw [← reshaping_lengthenAll.wrapped (by decide) (by decide), Tree.wrapped_of_ne h]
      rw [lengthenAll_arrow, lengthenAll_arrow, harg, lengthenAll_tuple, Tree.wrapped_node]

/-- Shortening a tree does not change its long form. -/
theorem lengthenAll_shortenAll (t : Tree) : lengthenAll (shortenAll t) = lengthenAll t := by
  refine prewalk_induct (motive := fun t r => lengthenAll r = lengthenAll t) tame_shorten ?_ ?_ t
  · intro t x hx
    rw [← hx, lengthenAll_shorten]
  · intro t h cs hn ih
    have hcs : (cs.map shortenAll).map lengthenAll = cs.map lengthenAll := by
      rw [List.map_map]
      exact List.map_congr_left ih
    rw [← lengthenAll_shorten t, hn, lengthenAll_node, lengthenAll_node, ← hcs]
    rfl

/-- Each form is reached in one walk and is left alone by the next, node by node, and the long form
is the same for a tree and for its short form. -/
theorem forms_agree (t : Tree) :
    lengthenAll (shortenAll t) = lengthenAll t ∧
      lengthenAll (lengthenAll t) = lengthenAll t ∧
      shortenAll (shortenAll t) = shortenAll t ∧
      (lengthenAll t).Everywhere (Rule.Refuses lengthening) ∧
      (shortenAll t).Everywhere fun s => shorten s = s := by
  have hlong := everywhere_refuses_lengthenAll t
  have hshort := everywhere_settled_shortenAll t
  refine ⟨lengthenAll_shortenAll t, lengthenAll_eq_self hlong, shortenAll_eq_self hshort, hlong, ?_⟩
  exact hshort.mono fun s hs => shorten_eq_self_iff.mpr hs

end Definition
end CodeTree
