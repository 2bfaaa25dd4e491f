import CodeTree.Proofs.Pass.Prettify

/-! The normal form of a run that keeps line markers: it is reached in one run, and a second run
leaves it as it is. -/
namespace CodeTree
variable {α : Type}

/-- A tree without blocks directly in blocks, without routines and without identifiers that look
generated. -/
structure Tree.IsPlain (t : Tree) : Prop where
  spliced : t.Everywhere IsSpliced
  named : t.AllLeaves fun x => ∀ r, x ≠ .routine r
  aliased : t.AllLeaves fun x => Alias.isGensym (.leaf x) = false

/-- A plain tree in which no rule for operators accepts a node. -/
structure Tree.IsNormal (t : Tree) : Prop extends t.IsPlain where
  restored : t.Everywhere (Rule.Refuses Operator.table)

theorem Naming.leaf_ne_routine (naming : Naming) (x : Leaf) (r : Routine) :
    naming.leaf x ≠ .routine r := by
  cases x <;> nofun

theorem Naming.leaf_of_ne_routine (naming : Naming) {x : Leaf} (hx : ∀ r, x ≠ .routine r) :
    naming.leaf x = x := by
  cases x with
  | routine r => exact absurd rfl (hx r)
  | _ => rfl

theorem Alias.Table.rename_ne_routine (table : Alias.Table) {x : Leaf}
    (hx : ∀ r, x ≠ .routine r) (r : Routine) : table.rename x ≠ .routine r := by
  cases x with
  | routine q => exact absurd rfl (hx q)
  | _ => nofun

section
variable (naming : Naming) (t : Tree)

theorem everywhere_isSpliced_restored : (t.restored naming).Everywhere Tree.IsSpliced := by
  refine Operator.everywhere_isSpliced_restore ?_
  rw [nameRoutines_eq_mapLeaves, Tree.everywhere_mapLeaves]
  refine (Tree.everywhere_isSpliced_flatten t).mono fun s hs => ?_
  exact Tree.isSpliced_reshaping (Tree.reshaping_mapLeaves _) (by decide) (by decide) hs

theorem allLeaves_restored_ne_routine :
    (t.restored naming).AllLeaves fun x => ∀ r, x ≠ .routine r := by
  refine Operator.allLeaves_restore ?_
  rw [nameRoutines_eq_mapLeaves, Tree.allLeaves_mapLeaves]
  exact fun x _ => naming.leaf_ne_routine x

end

section
variable {naming : Naming} {t u : Tree} {table after : Alias.Table}

/-- Aliasing a restored tree gives a plain one. -/
theorem isPlain_of_renames (ht : table.Consistent)
    (h : Alias.Renames table after (t.restored naming) u) : u.IsPlain := by
  rw [h.renamed]
  constructor
  · rw [Tree.everywhere_mapLeaves]
    refine (everywhere_isSpliced_restored naming t).mono fun s hs => ?_
    exact Tree.isSpliced_reshaping (Tree.reshaping_mapLeaves _) (by decide) (by decide) hs
  · rw [Tree.allLeaves_mapLeaves]
    exact (allLeaves_restored_ne_routine naming t).mono fun x hx => after.rename_ne_routine hx
  · rw [Tree.allLeaves_mapLeaves]
    exact h.covers.mono fun x hx => (h.leads.consistent ht).isGensym_rename hx

/-- If the words are no primitives, it is normal. -/
theorem isNormal_of_renames (ht : table.Consistent)
    (hw : ∀ name ∈ Operator.primitives, name ∉ table.words)
    (h : Alias.Renames table after (t.restored naming) u) : u.IsNormal := by
  have hkeep : Operator.KeepsPrimitives after.rename :=
    Alias.keepsPrimitives_rename (h.leads.consistent ht) (h.leads.grown.words ▸ hw)
  refine ⟨isPlain_of_renames ht h, ?_⟩
  rw [h.renamed, Tree.everywhere_mapLeaves]
  refine (Operator.everywhere_refuses_restore _).mono fun s hs => ?_
  exact Operator.refuses_reshaping (Tree.reshaping_mapLeaves _) hkeep (by decide) (by decide) hs

theorem nameRoutines_eq_self (ht : t.AllLeaves fun x => ∀ r, x ≠ .routine r) :
    t.nameRoutines naming = t := by
  rw [nameRoutines_eq_mapLeaves]
  exact Tree.mapLeaves_eq_self (ht.mono fun x hx => naming.leaf_of_ne_routine hx)

end

/-- On a plain tree a run restores operators and asks for no alias. -/
theorem prettify_of_isPlain {dump : Bool} {t : Tree} (ht : t.IsPlain) (s : Session α)
    (hd : ∀ v ∈ [t, Operator.restore t, (Operator.restore t).stripped s.keepLines],
      Pass.Dumps dump v) :
    ∃ log, (prettify dump t).run s = .ok ((Operator.restore t).stripped s.keepLines)
      { s with log := log, table? := some s.aliases } := by
  have hflat : t.flatten = t := Tree.flatten_eq_self ht.spliced
  have hname : t.nameRoutines s.naming = t := nameRoutines_eq_self ht.named
  have hrest : t.restored s.naming = Operator.restore t := by
    rw [Tree.restored, hflat, hname]
  have halias : (Alias.aliasAll (t.restored s.naming)).run s.aliases =
      .ok (Operator.restore t) s.aliases := by
    rw [hrest, Alias.aliasAll_eq_pure (Operator.allLeaves_restore ht.aliased)]
    rfl
  refine prettify_of_ok halias ?_
  rw [hrest, hflat, hname]
  simpa using hd

/-- A normal tree is left as it is. -/
theorem prettify_of_isNormal {dump : Bool} {t : Tree} (ht : t.IsNormal) {s : Session α}
    (hk : s.keepLines = true) (hd : Pass.Dumps dump t) :
    ∃ log, (prettify dump t).run s = .ok t { s with log := log, table? := some s.aliases } := by
  have hrest : (Operator.restore t).stripped s.keepLines = t := by
    rw [Operator.restore_eq_self ht.restored, hk]
    rfl
  have hdumps : ∀ v ∈ [t, Operator.restore t, (Operator.restore t).stripped s.keepLines],
      Pass.Dumps dump v := by
    rw [hrest, Operator.restore_eq_self ht.restored]
    simpa using hd
  obtain ⟨log, hrun⟩ := prettify_of_isPlain ht.toIsPlain s hdumps
  rw [hrest] at hrun
  exact ⟨log, hrun⟩

/-- With line markers kept, a run over a table whose words are no primitives returns a normal tree
only, and a second run returns the same tree and leaves its table as it is. -/
theorem prettify_isNormal {dump : Bool} {t r : Tree} {s s' : Session α}
    (hk : s.keepLines = true) (ht : s.aliases.Reachable)
    (hw : ∀ name ∈ Operator.primitives, name ∉ s.aliases.words)
    (h : (prettify dump t).run s = .ok r s') :
    r.IsNormal ∧ ∀ {β : Type} (again : Session β), again.keepLines = true →
      ∃ after, (prettify dump r).run again = .ok r after ∧ after.table? = some again.aliases := by
  obtain ⟨u, after, ha, hr, hd, -⟩ := prettify_ok h
  rw [hk] at hr
  have hn : r.IsNormal := hr ▸ isNormal_of_renames ht.consistent hw (Alias.aliasAll_ok ha)
  refine ⟨hn, fun again hagain => ?_⟩
  obtain ⟨log, hrun⟩ := prettify_of_isNormal hn hagain hd
  exact ⟨_, hrun, rfl⟩

/-- A block in a block, a live routine, and generated identifiers in two primitive calls. -/
def roughTree : Tree :=
  .node "block" [.node "line" [.leaf (.integer 1)],
    .node "block" [.node "call" [.symbol "getindex", .symbol "##a#1", .symbol "i"]],
    .node "call" [.leaf (.routine ⟨0, "tuple", false⟩), .symbol "##a#1", .symbol "##b#2"]]

def smoothTree : Tree :=
  .node "block" [.node "line" [.leaf (.integer 1)], .node "ref" [.symbol "ant", .symbol "i"],
    .node "tuple" [.symbol "ant", .symbol "bee"]]

def keepingSession : Session Unit :=
  { keepLines := true, fresh := .ofWords ["Bee", "ant", "a#"] .firstUnused }

theorem prettify_roughTree :
    ∃ after, (prettify false roughTree).run keepingSession = .ok smoothTree after := by
  have hflat : roughTree.flatten = .node "block" [.node "line" [.leaf (.integer 1)],
      .node "call" [.symbol "getindex", .symbol "##a#1", .symbol "i"],
      .node "call" [.leaf (.routine ⟨0, "tuple", false⟩), .symbol "##a#1", .symbol "##b#2"]] := by
    simp [roughTree, Tree.flatten_node, Tree.spliceBlocks, Tree.spliced, Tag.head]
  have hrest : roughTree.restored keepingSession.naming =
      .node "block" [.node "line" [.leaf (.integer 1)],
        .node "ref" [.symbol "##a#1", .symbol "i"],
        .node "tuple" [.symbol "##a#1", .symbol "##b#2"]] := by
    rw [Tree.restored, hflat]
    decide +kernel
  obtain ⟨table, halias⟩ : ∃ table,
      (Alias.aliasAll (roughTree.restored keepingSession.naming)).run keepingSession.aliases =
        .ok smoothTree table := by
    rw [hrest]
    exact ⟨_, rfl⟩
  obtain ⟨log, hrun⟩ := prettify_of_ok halias fun v _ => Pass.dumps_false v
  exact ⟨_, hrun⟩

theorem prettify_isNormal_roughTree :
    keepingSession.aliases.Reachable ∧
      (∀ name ∈ Operator.primitives, name ∉ keepingSession.aliases.words) ∧
      (∃ after, (prettify false roughTree).run keepingSession = .ok smoothTree after) ∧
      smoothTree.IsNormal ∧
      ∃ after, (prettify false smoothTree).run keepingSession = .ok smoothTree after ∧
        after.table? = some keepingSession.aliases := by
  have ht : keepingSession.aliases.Reachable := Alias.Table.reachable_ofWords _ _
  have hw : ∀ name ∈ Operator.primitives, name ∉ keepingSession.aliases.words := by
    decide +kernel
  obtain ⟨after, h⟩ := prettify_roughTree
  obtain ⟨hn, hagain⟩ := prettify_isNormal rfl ht hw h
  exact ⟨ht, hw, ⟨after, h⟩, hn, hagain keepingSession rfl⟩

end CodeTree
