import CodeTree.Proofs.Alias.Renaming
import CodeTree.Proofs.Definition.Form

/-! The walks from the root down of this library end on every tree, although they go on in the
answers of their functions. The nodes that a function puts in are not changed again: all that stands
in an answer weighs less than the tree that it is the answer for. -/
namespace CodeTree

section Tame
variable {f : Tree → Tree}

/-- The loop of a tame function has closed the last frame after `prewalkSteps` steps. -/
theorem prewalkM?_eq_prewalk (hf : Tame f) {t : Tree} {steps : Nat} (h : prewalkSteps t ≤ steps) :
    prewalkM? (m := Id) (fun t => pure (f t)) steps t = some (prewalk f t) := by
  have hweight := t.weight_le_size
  have hlimit : 2 * t.weight ≤ steps := by
    rw [prewalkSteps] at h
    omega
  rw [prewalkM?_eq_some hf hlimit, prewalk_eq_descend hf]

/-- A function that puts a node above whatever it is given is given that again, one level further
down, and the loop has no end. -/
theorem prewalkM?_eq_none_of_wrapping (head : String) (limit : Nat) (t : Tree) :
    prewalkM? (m := Id) (fun t => pure (.node head [t])) limit t = none := by
  have hloop (h : String) (done : List Tree) (outer : List Frame) :
      prewalkFrom? (m := Id) (fun t => pure (.node head [t])) limit ⟨h, done, [t]⟩ outer =
        none := by
    induction limit generalizing h done outer with
    | zero => rfl
    | succ limit ih => exact ih head [] (⟨h, done, []⟩ :: outer)
  exact hloop head [] []

end Tame

section Failure
variable {ε σ : Type} {s s' : σ} {e : ε}

theorem run_bind_eq_error {α β : Type} {x : EStateM ε σ α} {f : α → EStateM ε σ β}
    (h : (x >>= f).run s = .error e s') :
    x.run s = .error e s' ∨ ∃ a s₁, x.run s = .ok a s₁ ∧ (f a).run s₁ = .error e s' := by
  rw [EStateM.run_bind] at h
  cases hx : x.run s with
  | ok a s₁ =>
    rw [hx] at h
    exact .inr ⟨a, s₁, rfl, h⟩
  | error e₁ s₁ =>
    rw [hx] at h
    cases h
    exact .inl rfl

theorem mapLeavesAllM_error {g : Leaf → EStateM ε σ Leaf} {ts : List Tree}
    (h : (mapLeavesAllM g ts).run s = .error e s') :
    ∃ t ∈ ts, ∃ s₁, (t.mapLeavesM g).run s₁ = .error e s' := by
  induction ts generalizing s with
  | nil => cases h
  | cons t ts ih =>
    rw [mapLeavesAllM] at h
    rcases run_bind_eq_error h with h | ⟨r, s₁, -, h⟩
    · exact ⟨t, List.mem_cons_self, s, h⟩
    · rcases run_bind_eq_error h with h | ⟨rs, s₂, -, h⟩
      · obtain ⟨u, hu, hrun⟩ := ih h
        exact ⟨u, List.mem_cons_of_mem _ hu, hrun⟩
      · cases h

/-- A failure on the way over the leaves of a tree is the failure at one of them. -/
theorem Tree.mapLeavesM_error {g : Leaf → EStateM ε σ Leaf} {t : Tree}
    (h : (t.mapLeavesM g).run s = .error e s') :
    ∃ x s₁, .leaf x ∈ t.subtrees ∧ (g x).run s₁ = .error e s' := by
  induction t generalizing s with
  | leaf x =>
    rw [mapLeavesM] at h
    rcases run_bind_eq_error h with h | ⟨y, s₁, -, h⟩
    · exact ⟨x, s, mem_subtrees_self _, h⟩
    · cases h
  | node head cs ih =>
    rw [mapLeavesM] at h
    rcases run_bind_eq_error h with h | ⟨rs, s₁, -, h⟩
    · obtain ⟨c, hc, s₁, hrun⟩ := mapLeavesAllM_error h
      obtain ⟨x, s₂, hx, hfail⟩ := ih c hc hrun
      exact ⟨x, s₂, mem_subtrees_node.mpr (.inr ⟨c, hc, hx⟩), hfail⟩
    · cases h

end Failure

namespace Alias

theorem aliasName_error {x : Leaf} {table after : Table} {e : Error}
    (h : (aliasName x).run table = .error e after) :
    ∃ name, x = .symbol name ∧ after.wordFor name = .error e := by
  cases hx : isGensym (.leaf x) with
  | false =>
    rw [aliasName_of_not_isGensym hx] at h
    cases h
  | true =>
    obtain ⟨name, rfl, hm⟩ := exists_isMarked_of_isGensym hx
    cases hw : table.wordFor name with
    | error e₁ =>
      rw [aliasName_run_of_error hm hw] at h
      cases h
      exact ⟨name, rfl, hw⟩
    | ok found =>
      rw [aliasName_run_of_ok hm hw] at h
      cases h

/-- The loop of aliasing ends with a tree, or with the error of the table that it leaves for an
identifier of the tree. -/
theorem prewalkM?_aliasLeaf {t : Tree} {steps : Nat} (h : prewalkSteps t ≤ steps) (table : Table) :
    (∃ r after, (prewalkM? aliasLeaf steps t).run table = .ok (some r) after) ∨
      ∃ e after name, (prewalkM? aliasLeaf steps t).run table = .error e after ∧
        .symbol name ∈ t.subtrees ∧ after.wordFor name = .error e := by
  have hlimit : 2 * t.size ≤ steps := by
    rw [prewalkSteps] at h
    omega
  rw [prewalkM?_leafwise aliasLeaf_leaf (fun _ _ => rfl) hlimit, EStateM.run_bind]
  cases hrun : (t.mapLeavesM aliasName).run table with
  | ok r after => exact .inl ⟨r, after, rfl⟩
  | error e after =>
    obtain ⟨x, s, hx, hfail⟩ := Tree.mapLeavesM_error hrun
    obtain ⟨name, rfl, hword⟩ := aliasName_error hfail
    exact .inr ⟨e, after, name, rfl, hx, hword⟩

end Alias

/-- Within the steps allowed, and with any number beyond them, every walk from the root down closes
its last frame: the ones that change the form of definitions, that restore operators, that drop line
markers, that name routines in whatever way, and, unless a table refuses an alias, the one that puts
aliases in. -/
theorem prewalks_end (t : Tree) (steps : Nat) (h : prewalkSteps t ≤ steps) :
    prewalkM? (m := Id) (fun t => pure (Definition.lengthen t)) steps t =
        some (Definition.lengthenAll t) ∧
      prewalkM? (m := Id) (fun t => pure (Definition.shorten t)) steps t =
        some (Definition.shortenAll t) ∧
      prewalkM? (m := Id) (fun t => pure (Rule.transform Operator.table t)) steps t =
        some (Operator.restore t) ∧
      prewalkM? (m := Id) (fun t => pure t.dropMarkers) steps t = some t.stripMarkers ∧
      (∀ naming, prewalkM? (m := Id) (fun t => pure (t.nameRoutine naming)) steps t =
        some (t.nameRoutines naming)) ∧
      ∀ table, (∃ r after, (prewalkM? Alias.aliasLeaf steps t).run table = .ok (some r) after) ∨
        ∃ e after name, (prewalkM? Alias.aliasLeaf steps t).run table = .error e after ∧
          .symbol name ∈ t.subtrees ∧ after.wordFor name = .error e := by
  refine ⟨?_, ?_, ?_, ?_, ?_, ?_⟩
  · exact prewalkM?_eq_prewalk Definition.tame_lengthen h
  · exact prewalkM?_eq_prewalk Definition.tame_shorten h
  · exact prewalkM?_eq_prewalk Operator.tame_step h
  · exact prewalkM?_eq_prewalk Tree.tame_dropMarkers h
  · exact fun naming => prewalkM?_eq_prewalk (tame_nameRoutine naming) h
  · exact Alias.prewalkM?_aliasLeaf h

/-- A definition whose body is an arrow and holds a marked name. -/
def arrowInBody : Tree :=
  Tag.assign.node [Tag.call.node [.symbol "f"], Tag.arrow.node [.symbol "x", .symbol "##y#1"]]

theorem prewalks_end_arrowInBody :
    prewalkSteps arrowInBody ≤ 64 ∧
      prewalkM? (m := Id) (fun t => pure (Definition.lengthen t)) 64 arrowInBody =
        some (Tag.function.node [Tag.call.node [.symbol "f"],
          Tag.block.node [Tag.function.node
            [Tag.tuple.node [.symbol "x"], Tag.block.node [.symbol "##y#1"]]]]) ∧
      ∃ e after name, (prewalkM? Alias.aliasLeaf 64 arrowInBody).run
          { words := [], strategy := Alias.Strategy.firstUnused } = .error e after ∧
        .symbol name ∈ arrowInBody.subtrees ∧ after.wordFor name = .error e := by
  have hsteps : prewalkSteps arrowInBody ≤ 64 := by decide
  obtain ⟨hlong, -, -, -, -, halias⟩ := prewalks_end arrowInBody 64 hsteps
  refine ⟨hsteps, hlong.trans rfl, ?_⟩
  rcases halias { words := [], strategy := Alias.Strategy.firstUnused } with ⟨r, after, hrun⟩ | h
  · cases hrun
  · exact h

end CodeTree
