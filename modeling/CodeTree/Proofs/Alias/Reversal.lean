import CodeTree.Proofs.Alias.Renaming
import Mathlib.Data.List.Forall2

/-! Several trees aliased with one table. Every tree is renamed by the aliases that the table ends
with, and as no two symbols share an alias, the renaming can be undone. -/
namespace CodeTree

namespace Alias

/-- Trees aliased one after another are renamed by the table that the last of them leaves. -/
theorem mapM_aliasAll_ok {ts rs : List Tree} {table after : Table}
    (h : (ts.mapM aliasAll).run table = .ok rs after) :
    table.Leads after ∧ List.Forall₂ (fun t r =>
      t.AllLeaves after.Covers ∧ r = t.mapLeaves after.rename) ts rs := by
  induction ts generalizing table rs with
  | nil =>
    cases h
    exact ⟨.refl _, .nil⟩
  | cons t ts ih =>
    rw [List.mapM_cons] at h
    obtain ⟨r, middle, hr, h⟩ := run_bind_eq_ok.mp h
    obtain ⟨rest, last, hrest, h⟩ := run_bind_eq_ok.mp h
    cases h
    obtain ⟨hleads, hall⟩ := ih hrest
    have hfirst := (aliasAll_ok hr).later hleads
    exact ⟨hfirst.leads, .cons ⟨hfirst.covers, hfirst.renamed⟩ hall⟩

namespace Table

/-- The symbol that has the word for its alias. -/
def symbolOf? (table : Table) (word : String) : Option String :=
  (table.aliases.find? fun entry => entry.2 == word).map Prod.fst

/-- A leaf with an alias replaced by the symbol that has it. -/
def original (table : Table) : Leaf → Leaf
  | .symbol name => .symbol ((table.symbolOf? name).getD name)
  | x => x

/-- The leaf is no identifier that could be taken for an alias. -/
def Spares (table : Table) : Leaf → Prop
  | .symbol name => isMarked name = false → name ∉ table.words
  | _ => True

theorem Consistent.get?_eq_some_iff {table : Table} (ht : table.Consistent)
    {symbol word : String} : table.get? symbol = some word ↔ (symbol, word) ∈ table.aliases := by
  rw [get?, List.lookup_eq_some_iff]
  constructor
  · rintro ⟨before, rest, heq, -⟩
    rw [heq]
    simp
  · intro h
    obtain ⟨before, rest, heq⟩ := List.append_of_mem h
    refine ⟨before, rest, heq, fun entry he => ?_⟩
    have hnodup := ht.symbols_nodup
    rw [heq, List.map_append, List.nodup_append] at hnodup
    have hne := hnodup.2.2 entry.1 (List.mem_map_of_mem he) symbol (by simp)
    exact bne_iff_ne.mpr hne.symm

/-- A word is the alias of one symbol at most, and that symbol is found. -/
theorem Consistent.symbolOf?_eq_some_iff {table : Table} (ht : table.Consistent)
    {symbol word : String} :
    table.symbolOf? word = some symbol ↔ table.get? symbol = some word := by
  constructor
  · intro h
    obtain ⟨entry, he, rfl⟩ := Option.map_eq_some_iff.mp h
    have hword : entry.2 = word := by simpa using List.find?_some he
    rw [ht.get?_eq_some_iff, ← hword]
    exact List.mem_of_find?_eq_some he
  · intro h
    have hsome : (table.aliases.find? fun entry => entry.2 == word).isSome := by
      rw [List.find?_isSome]
      exact ⟨(symbol, word), ht.get?_eq_some_iff.mp h, by simp⟩
    obtain ⟨entry, he⟩ := Option.isSome_iff_exists.mp hsome
    have hword : entry.2 = word := by simpa using List.find?_some he
    have hentry : table.get? entry.1 = some word := by
      rw [ht.get?_eq_some_iff, ← hword]
      exact List.mem_of_find?_eq_some he
    rw [symbolOf?, he, Option.map_some, ht.injective _ _ _ hentry h]

theorem Consistent.original_rename {table : Table} (ht : table.Consistent) {x : Leaf}
    (hc : table.Covers x) (hs : table.Spares x) : table.original (table.rename x) = x := by
  cases x with
  | symbol name =>
    by_cases hm : isMarked name
    · obtain ⟨word, hw⟩ := hc hm
      simp [rename, original, hm, hw, ht.symbolOf?_eq_some_iff.mpr hw]
    · have hnone : table.symbolOf? name = none := by
        rw [Option.eq_none_iff_forall_not_mem]
        intro symbol hsymbol
        have hget := ht.symbolOf?_eq_some_iff.mp hsymbol
        exact hs (by simpa using hm) (ht.listed _ _ hget)
      simp [rename, original, hm, hnone]
  | _ => rfl

end Table

/-- From any state of a table and with any strategy, trees aliased one after another are renamed by
the aliases that the table ends with and hold no generated identifier. Where no other identifier is
a word of the table, taking each alias back to its only symbol gives the tree back. -/
theorem aliasAll_reversible {words : List String} {strategy choice : Strategy}
    {requests : List Request} {ts rs : List Tree} {after : Table}
    (h : (ts.mapM aliasAll).run
      (((Table.ofWords words strategy).afterAll requests).consulting choice) = .ok rs after) :
    List.Forall₂ (fun t r =>
        t.AllLeaves after.Covers ∧ r = t.mapLeaves after.rename ∧
        (r.AllLeaves fun x => isGensym (.leaf x) = false) ∧
        (t.AllLeaves after.Spares → r.mapLeaves after.original = t)) ts rs ∧
      ∀ symbol word, after.symbolOf? word = some symbol ↔ after.get? symbol = some word := by
  obtain ⟨hleads, hall⟩ := mapM_aliasAll_ok h
  have hstart := ((Table.consistent_ofWords words strategy).afterAll requests).consulting choice
  have ht : after.Consistent := hleads.consistent hstart
  refine ⟨hall.imp ?_, fun symbol word => ht.symbolOf?_eq_some_iff⟩
  rintro t r ⟨hc, rfl⟩
  refine ⟨hc, rfl, ?_, fun hs => ?_⟩
  · rw [Tree.allLeaves_mapLeaves]
    exact fun x hx => ht.isGensym_rename (hc x hx)
  · rw [Tree.mapLeaves_mapLeaves]
    exact Tree.mapLeaves_eq_self fun x hx => ht.original_rename (hc x hx) (hs x hx)

/-- Two trees that share a generated identifier, which is the head of one of them too. -/
def sharingTrees : List Tree :=
  [.node "f" [.symbol "##x#1", .symbol "y", .leaf (.text "##x#1")],
    .node "##x#1" [.symbol "##z#2", .symbol "##x#1"]]

def sharedWords : List Tree :=
  [.node "f" [.symbol "bee", .symbol "y", .leaf (.text "##x#1")],
    .node "##x#1" [.symbol "cat", .symbol "bee"]]

/-- The table at the end, with an entry from before for an identifier that is not generated. -/
def sharedTable : Table where
  words := ["bee", "ant", "cat"]
  strategy := .firstUnused
  aliases := [("y", "ant"), ("##x#1", "bee"), ("##z#2", "cat")]
  used := ["cat", "bee", "ant"]

theorem aliasAll_reversible_sharingTrees :
    (sharingTrees.mapM aliasAll).run
        (((Table.ofWords ["Bee", "ant", "CAT", "a#b", "cat"] fun _ => .unhashable).afterAll
          [⟨"y", fun _ => .text "ant"⟩]).consulting .firstUnused) =
      .ok sharedWords sharedTable ∧
      List.Forall₂ (fun t r => r.mapLeaves sharedTable.original = t) sharingTrees sharedWords := by
  have h : (sharingTrees.mapM aliasAll).run
      (((Table.ofWords ["Bee", "ant", "CAT", "a#b", "cat"] fun _ => .unhashable).afterAll
        [⟨"y", fun _ => .text "ant"⟩]).consulting .firstUnused) =
      .ok sharedWords sharedTable := rfl
  obtain ⟨hall, -⟩ := aliasAll_reversible h
  have hspared : ∀ t ∈ sharingTrees, t.AllLeaves sharedTable.Spares := by
    simp [sharingTrees, sharedTable, Table.Spares, isMarked, mark]
  refine ⟨h, ?_⟩
  exact ((List.forall₂_and_left _ _).mpr ⟨hspared, hall⟩).imp fun t r ht => ht.2.2.2.2 ht.1

end Alias
end CodeTree
