import CodeTree.Proofs.Block
import CodeTree.Tree.Equality
import Mathlib.Data.List.Perm.Basic

/-! Flattening loses nothing: whatever is no block stays in its place, and the statements of the
blocks are the same ones, whichever block they stand in. -/
namespace CodeTree.Tree

/-- The leaves and the nodes other than blocks, a node before its children: each leaf by its value,
each node by its head and its number of children. -/
def outlines (t : Tree) : List Outline :=
  (t.subtrees.filter fun s => !s.isBlock).map outline

/-- Whether a child of a block counts as a statement; blocks and line markers do not. -/
def isStatement (t : Tree) : Bool :=
  !t.isBlock && !t.isLineMarker

/-- The statements that stand directly in a block. -/
def ownStatements : Tree → List Tree
  | .leaf _ => []
  | .node h cs => if h = Tag.block.head then cs.filter isStatement else []

/-- The statements of all blocks in a tree. -/
def statements (t : Tree) : List Tree :=
  t.subtrees.flatMap ownStatements

section Outlines

theorem outlines_node_of_ne {h : String} (hh : h ≠ Tag.block.head) (cs : List Tree) :
    (node h cs).outlines = .compound h cs.length :: cs.flatMap outlines := by
  have hb : (node h cs).isBlock = false := by
    simpa [isBlock, isTagged] using hh
  rw [outlines, subtrees_node, List.filter_cons_of_pos (by simp [hb]), List.map_cons,
    List.filter_flatMap, List.map_flatMap]
  rfl

theorem outlines_block (cs : List Tree) :
    (Tag.block.node cs).outlines = cs.flatMap outlines := by
  have hb := isBlock_block cs
  rw [outlines, Tag.node, subtrees_node, ← Tag.node, List.filter_cons_of_neg (by simp [hb]),
    List.filter_flatMap, List.map_flatMap]
  rfl

/-- A tree has the outlines of the statements that it contributes. -/
theorem flatMap_outlines_spliced (t : Tree) : t.spliced.flatMap outlines = t.outlines := by
  by_cases hb : t.isBlock
  · obtain ⟨cs, rfl⟩ := isBlock_iff.mp hb
    rw [outlines_block, spliced_block]
  · rw [spliced_of_not_isBlock hb, List.flatMap_singleton]

/-- Flattening keeps all that is no block, in the same order. -/
theorem outlines_flatten (t : Tree) : t.flatten.outlines = t.outlines := by
  have hchildren {cs : List Tree} (ih : ∀ c ∈ cs, c.flatten.outlines = c.outlines) :
      (cs.map flatten).flatMap outlines = cs.flatMap outlines := by
    rw [List.flatMap_map]
    exact List.flatMap_congr ih
  induction t using inductBlocks with
  | leaf x => rw [flatten_leaf]
  | block cs ih =>
    rw [flatten_block, outlines_block, outlines_block, List.flatMap_assoc, ← hchildren ih]
    exact List.flatMap_congr fun c _ => flatMap_outlines_spliced c
  | node h cs hh ih =>
    rw [flatten_node_of_ne hh, outlines_node_of_ne hh, outlines_node_of_ne hh, hchildren ih,
      List.length_map]

end Outlines

section Statements
open scoped List

theorem isStatement_flatten (t : Tree) : t.flatten.isStatement = t.isStatement := by
  simp only [isStatement, isBlock, isLineMarker, isTagged_flatten]

theorem statements_node (h : String) (cs : List Tree) :
    (node h cs).statements = (node h cs).ownStatements ++ cs.flatMap statements := by
  rw [statements, subtrees_node, List.flatMap_cons, List.flatMap_assoc]
  rfl

/-- What a child adds to the statements of the block around it: itself if it counts as one, and the
statements of the blocks in it. -/
def addedStatements (t : Tree) : List Tree :=
  [t].filter isStatement ++ t.statements

theorem addedStatements_block (cs : List Tree) :
    (Tag.block.node cs).addedStatements = (Tag.block.node cs).statements := by
  have hb := isBlock_block cs
  rw [addedStatements, List.filter_cons_of_neg (by simp [isStatement, hb])]
  rfl

/-- The statements of a block are what its children add, up to the order: the block lists its own
before those in its children. -/
theorem statements_block_perm (cs : List Tree) :
    (Tag.block.node cs).statements.Perm (cs.flatMap addedStatements) := by
  have hown : (Tag.block.node cs).ownStatements = cs.flatMap fun c => [c].filter isStatement := by
    rw [Tag.node, ownStatements, if_pos rfl, ← List.filter_flatMap, List.flatMap_singleton']
  rw [Tag.node, statements_node, ← Tag.node, hown]
  exact List.flatMap_append_perm cs _ _

theorem flatMap_addedStatements_spliced (t : Tree) :
    (t.spliced.flatMap addedStatements).Perm t.addedStatements := by
  by_cases hb : t.isBlock
  · obtain ⟨cs, rfl⟩ := isBlock_iff.mp hb
    rw [addedStatements_block, spliced_block]
    exact (statements_block_perm cs).symm
  · rw [spliced_of_not_isBlock hb, List.flatMap_singleton]

theorem addedStatements_flatten {t : Tree}
    (h : t.flatten.statements.Perm (t.statements.map flatten)) :
    t.flatten.addedStatements.Perm (t.addedStatements.map flatten) := by
  have hself : [t.flatten].filter isStatement = ([t].filter isStatement).map flatten := by
    rw [List.filter_singleton, List.filter_singleton, isStatement_flatten]
    cases t.isStatement <;> rfl
  rw [addedStatements, addedStatements, List.map_append, hself]
  exact h.append_left _

/-- The statements of a flattened tree are those of the tree, each of them flattened. -/
theorem statements_flatten_perm (t : Tree) :
    t.flatten.statements.Perm (t.statements.map flatten) := by
  induction t using inductBlocks with
  | leaf x => rfl
  | block cs ih =>
    calc (Tag.block.node cs).flatten.statements
      _ = (Tag.block.node ((cs.map flatten).flatMap spliced)).statements := by rw [flatten_block]
      _ ~ ((cs.map flatten).flatMap spliced).flatMap addedStatements := statements_block_perm _
      _ = (cs.map flatten).flatMap fun c => c.spliced.flatMap addedStatements :=
        List.flatMap_assoc
      _ ~ (cs.map flatten).flatMap addedStatements :=
        List.Perm.flatMap_left _ fun c _ => flatMap_addedStatements_spliced c
      _ = cs.flatMap fun c => c.flatten.addedStatements := List.flatMap_map ..
      _ ~ cs.flatMap fun c => c.addedStatements.map flatten :=
        List.Perm.flatMap_left _ fun c hc => addedStatements_flatten (ih c hc)
      _ = (cs.flatMap addedStatements).map flatten := List.map_flatMap.symm
      _ ~ (Tag.block.node cs).statements.map flatten := ((statements_block_perm cs).map _).symm
  | node h cs hh ih =>
    have hown (ds : List Tree) : (node h ds).ownStatements = [] := by
      rw [ownStatements, if_neg hh]
    rw [flatten_node_of_ne hh, statements_node, statements_node, hown, hown, List.nil_append,
      List.nil_append, List.flatMap_map, List.map_flatMap]
    exact List.Perm.flatMap_left _ ih

end Statements

/-- One walk leaves no block directly in a block and nothing for a second walk. It keeps all that is
no block in its place, and as many statements in blocks as there were. -/
theorem flatten_keeps_statements (t : Tree) :
    t.flatten.Everywhere IsSpliced ∧ t.flatten.flatten = t.flatten ∧
      t.flatten.outlines = t.outlines ∧
      t.flatten.statements.length = t.statements.length := by
  have hspliced := everywhere_isSpliced_flatten t
  have hperm := statements_flatten_perm t
  refine ⟨hspliced, flatten_eq_self hspliced, outlines_flatten t, ?_⟩
  rw [hperm.length_eq, List.length_map]

end CodeTree.Tree
