import CodeTree.Proofs.Alias.Requests
import CodeTree.Proofs.Operator

/-! Aliasing a tree is a renaming of its leaves by the aliases of the table that it leaves. -/
namespace CodeTree.Alias

/-- The leaf by which aliasing replaces a leaf. -/
def aliasName : Leaf → EStateM Error Table Leaf
  | .symbol name => do
    if isMarked name then return .symbol (← ask name) else return .symbol name
  | x => return x

theorem aliasLeaf_leaf (x : Leaf) : aliasLeaf (.leaf x) = (return .leaf (← aliasName x)) := by
  cases x with
  | symbol name =>
    unfold aliasLeaf aliasName
    by_cases h : isMarked name <;> simp [h]
  | _ => rfl

theorem aliasAll_eq_mapLeavesM (t : Tree) : aliasAll t = t.mapLeavesM aliasName :=
  prewalkM_leafwise aliasLeaf_leaf (fun _ _ => rfl) t

namespace Table

/-- A leaf with a generated identifier replaced by its alias. -/
def rename (table : Table) : Leaf → Leaf
  | .symbol name => .symbol (if isMarked name then (table.get? name).getD name else name)
  | x => x

/-- A generated identifier has an alias. -/
def Covers (table : Table) : Leaf → Prop
  | .symbol name => isMarked name → ∃ word, table.get? name = some word
  | _ => True

theorem Grown.covers {table after : Table} (h : Grown table after) {x : Leaf}
    (hx : table.Covers x) : after.Covers x := by
  cases x with
  | symbol name =>
    intro hm
    obtain ⟨word, hw⟩ := hx hm
    exact ⟨word, h.keeps name word hw⟩
  | _ => trivial

theorem Grown.rename_eq {table after : Table} (h : Grown table after) {x : Leaf}
    (hx : table.Covers x) : table.rename x = after.rename x := by
  cases x with
  | symbol name =>
    by_cases hm : isMarked name
    · obtain ⟨word, hw⟩ := hx hm
      simp [rename, hm, hw, h.keeps name word hw]
    · simp [rename, hm]
  | _ => rfl

/-- The alias of a covered identifier is a word, so it looks generated no more. -/
theorem Consistent.isGensym_rename {table : Table} (ht : table.Consistent) {x : Leaf}
    (hx : table.Covers x) : isGensym (.leaf (table.rename x)) = false := by
  cases x with
  | symbol name =>
    by_cases hm : isMarked name
    · obtain ⟨word, hw⟩ := hx hm
      simpa [rename, hm, hw, isGensym] using ht.unmarked word (ht.listed name word hw)
    · simp [rename, hm, isGensym]
  | _ => rfl

end Table

theorem aliasName_of_not_isGensym {x : Leaf} (h : isGensym (.leaf x) = false) :
    aliasName x = pure x := by
  cases x with
  | symbol name =>
    have hm : isMarked name = false := h
    simp [aliasName, hm]
  | _ => rfl

theorem exists_isMarked_of_isGensym {x : Leaf} (h : isGensym (.leaf x)) :
    ∃ name, x = .symbol name ∧ isMarked name := by
  cases x with
  | symbol name => exact ⟨name, rfl, h⟩
  | _ => cases h

theorem aliasName_run_of_ok {table after : Table} {name word : String} (hm : isMarked name)
    (h : table.wordFor name = .ok (word, after)) :
    (aliasName (.symbol name)).run table = .ok (.symbol word) after := by
  rw [aliasName, if_pos hm, EStateM.run_bind, ask_run, h]
  rfl

theorem aliasName_run_of_error {table : Table} {name : String} {e : Error} (hm : isMarked name)
    (h : table.wordFor name = .error e) :
    (aliasName (.symbol name)).run table = .error e table := by
  rw [aliasName, if_pos hm, EStateM.run_bind, ask_run, h]

/-- A generated identifier gets the word that the table has for it; any other leaf stays. -/
theorem aliasName_cases {x y : Leaf} {table after : Table}
    (h : (aliasName x).run table = .ok y after) :
    (∃ name word, x = .symbol name ∧ isMarked name ∧ table.wordFor name = .ok (word, after) ∧
        y = .symbol word) ∨
      (isGensym (.leaf x) = false ∧ y = x ∧ after = table) := by
  cases hx : isGensym (.leaf x) with
  | false =>
    rw [aliasName_of_not_isGensym hx] at h
    cases h
    exact .inr ⟨rfl, rfl, rfl⟩
  | true =>
    obtain ⟨name, rfl, hm⟩ := exists_isMarked_of_isGensym hx
    cases hw : table.wordFor name with
    | error e =>
      rw [aliasName_run_of_error hm hw] at h
      cases h
    | ok found =>
      rw [aliasName_run_of_ok hm hw] at h
      cases h
      exact .inl ⟨name, found.1, rfl, hm, hw, rfl⟩

theorem Table.covers_of_not_isGensym (table : Table) {x : Leaf} (h : isGensym (.leaf x) = false) :
    table.Covers x ∧ x = table.rename x := by
  cases x with
  | symbol name =>
    have hm : isMarked name = false := h
    exact ⟨fun hn => absurd hn (by simp [hm]), by simp [rename, hm]⟩
  | _ => exact ⟨trivial, rfl⟩

theorem aliasName_ok {x y : Leaf} {table after : Table}
    (h : (aliasName x).run table = .ok y after) :
    table.Leads after ∧ after.Covers x ∧ y = after.rename x := by
  rcases aliasName_cases h with ⟨name, word, rfl, hm, hw, rfl⟩ | ⟨hx, rfl, rfl⟩
  · obtain ⟨-, hget⟩ := Table.grown_wordFor hw
    refine ⟨Table.leads_wordFor hw, fun _ => ⟨word, hget⟩, ?_⟩
    simp [Table.rename, hm, hget]
  · exact ⟨.refl _, Table.covers_of_not_isGensym _ hx⟩

/-- What a run over a tree leaves: a table that covers its leaves, to which requests lead, and the
tree renamed by it. -/
structure Renames (table after : Table) (t r : Tree) : Prop where
  leads : table.Leads after
  covers : t.AllLeaves after.Covers
  renamed : r = t.mapLeaves after.rename

theorem Renames.later {table after last : Table} {t r : Tree} (h : Renames table after t r)
    (hl : after.Leads last) : Renames table last t r where
  leads := h.leads.trans hl
  covers := h.covers.mono fun _ => hl.grown.covers
  renamed := by
    rw [h.renamed]
    exact Tree.mapLeaves_congr (h.covers.mono fun _ => hl.grown.rename_eq)

theorem Renames.cons {table middle after : Table} {head : String} {c r : Tree} {cs rs : List Tree}
    (hc : Renames table middle c r) (hcs : Renames middle after (.node head cs) (.node head rs)) :
    Renames table after (.node head (c :: cs)) (.node head (r :: rs)) where
  leads := hc.leads.trans hcs.leads
  covers := by
    rw [Tree.allLeaves_node, List.forall_mem_cons]
    exact ⟨(hc.later hcs.leads).covers, Tree.allLeaves_node.mp hcs.covers⟩
  renamed := by
    have hrest := hcs.renamed
    rw [Tree.mapLeaves_node] at hrest ⊢
    injection hrest with _ hrest
    rw [List.map_cons, ← hrest, ← (hc.later hcs.leads).renamed]

theorem mapLeavesAllM_aliasName_ok (head : String) {cs rs : List Tree} {table after : Table}
    (hcs : ∀ c ∈ cs, ∀ {r : Tree} {table after : Table},
      (c.mapLeavesM aliasName).run table = .ok r after → Renames table after c r)
    (h : (mapLeavesAllM aliasName cs).run table = .ok rs after) :
    Renames table after (.node head cs) (.node head rs) := by
  induction cs generalizing table rs with
  | nil =>
    cases h
    exact ⟨.refl _, by simp, by simp⟩
  | cons c cs ih =>
    rw [mapLeavesAllM] at h
    obtain ⟨r, middle, hr, h⟩ := run_bind_eq_ok.mp h
    obtain ⟨rest, last, hrest, h⟩ := run_bind_eq_ok.mp h
    cases h
    have hc := hcs c List.mem_cons_self hr
    exact hc.cons (ih (fun c hm => hcs c (List.mem_cons_of_mem _ hm)) hrest)

/-- Aliasing renames a tree by the table that it leaves. -/
theorem aliasAll_ok {t r : Tree} {table after : Table} (h : (aliasAll t).run table = .ok r after) :
    Renames table after t r := by
  rw [aliasAll_eq_mapLeavesM] at h
  induction t generalizing table after r with
  | leaf x =>
    rw [Tree.mapLeavesM] at h
    obtain ⟨y, last, hy, h⟩ := run_bind_eq_ok.mp h
    cases h
    obtain ⟨hl, hc, rfl⟩ := aliasName_ok hy
    exact ⟨hl, Tree.allLeaves_leaf.mpr hc, (Tree.mapLeaves_leaf _ x).symm⟩
  | node head cs ih =>
    rw [Tree.mapLeavesM] at h
    obtain ⟨rs, last, hrs, h⟩ := run_bind_eq_ok.mp h
    cases h
    exact mapLeavesAllM_aliasName_ok head ih hrs

/-- A tree without generated identifiers stays, and so does the table. -/
theorem aliasAll_eq_pure {t : Tree} (h : t.AllLeaves fun x => isGensym (.leaf x) = false) :
    aliasAll t = pure t := by
  rw [aliasAll_eq_mapLeavesM]
  exact mapLeavesM_eq_pure (h.mono fun _ => aliasName_of_not_isGensym)

/-- Words that are no primitives make no primitives. -/
theorem keepsPrimitives_rename {table : Table} (ht : table.Consistent)
    (hw : ∀ name ∈ Operator.primitives, name ∉ table.words) :
    Operator.KeepsPrimitives table.rename where
  symbol x name h := by
    cases x with
    | symbol name' => exact ⟨name', rfl⟩
    | _ => cases h
  primitive x name hn h := by
    cases x with
    | symbol name' =>
      injection h with h
      split at h
      · cases hg : table.get? name' with
        | none =>
          rw [hg] at h
          exact congrArg Leaf.symbol h
        | some word =>
          rw [hg] at h
          subst h
          exact absurd (ht.listed _ _ hg) (hw _ hn)
      · exact congrArg Leaf.symbol h
    | _ => cases h

end CodeTree.Alias
