import CodeTree.Proofs.Walk
import CodeTree.Rule

/-! What a table of rules does to one tree, and to every tree below it. -/
namespace CodeTree.Rule
variable {β γ : Type}

/-- No rule of a table accepts the tree. -/
def Refuses (rules : List (Rule β γ)) (t : Tree) : Prop :=
  ∀ rule ∈ rules, rule.bind? t = none

instance (rules : List (Rule β γ)) (t : Tree) : Decidable (Refuses rules t) :=
  inferInstanceAs (Decidable (∀ rule ∈ rules, rule.bind? t = none))

theorem first?_eq_none {rules : List (Rule β γ)} {t : Tree} :
    first? rules t = none ↔ Refuses rules t := by
  simp [first?, Refuses]

theorem exists_of_first? {rules : List (Rule β γ)} {t : Tree} {rule : Rule β γ} {bound : β}
    (h : first? rules t = some (rule, bound)) : rule ∈ rules ∧ rule.bind? t = some bound := by
  obtain ⟨r, hr, hb⟩ := List.exists_of_findSome?_eq_some h
  obtain ⟨b, hb, heq⟩ := Option.map_eq_some_iff.mp hb
  cases heq
  exact ⟨hr, hb⟩

section
variable {rules : List (Rule β Tree)} {t : Tree}

theorem transform_of_refuses (h : Refuses rules t) : transform rules t = t := by
  rw [transform, result?, first?_eq_none.mpr h]
  rfl

/-- A table leaves a tree alone or puts what one of its rules builds in its place. -/
theorem transform_cases (rules : List (Rule β Tree)) (t : Tree) :
    (Refuses rules t ∧ transform rules t = t) ∨
      ∃ rule ∈ rules, ∃ bound, rule.bind? t = some bound ∧
        transform rules t = rule.build bound := by
  cases h : first? rules t with
  | none =>
    have hr := first?_eq_none.mp h
    exact .inl ⟨hr, transform_of_refuses hr⟩
  | some found =>
    obtain ⟨rule, bound⟩ := found
    obtain ⟨hm, hb⟩ := exists_of_first? h
    refine .inr ⟨rule, hm, bound, hb, ?_⟩
    rw [transform, result?, h]
    rfl

end

theorem transformNoted_run_fst (rules : List (Rule β Tree)) (t : Tree) (names : List String) :
    ((transformNoted rules t).run names).1 = transform rules t := by
  unfold transformNoted transform result?
  cases first? rules t <;> rfl

/-- The names that are noted do not change the outcome. -/
theorem transformAllNoted_fst (rules : List (Rule β Tree)) (t : Tree) :
    (transformAllNoted rules t).1 = transformAll rules t :=
  prewalkM_run_fst (transformNoted_run_fst rules) t []

end CodeTree.Rule
