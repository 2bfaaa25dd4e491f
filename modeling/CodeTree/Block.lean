import CodeTree.Tree.Marker
import CodeTree.Walk

/-! Blocks of statements: redundant wrappers, splicing of nested blocks, and removal of line
markers. -/
namespace CodeTree.Tree

def isBlock (t : Tree) : Bool :=
  t.isTagged .block

/-- Takes off outer blocks that hold a single statement besides line markers. -/
def unblock : Tree → Tree
  | .leaf x => .leaf x
  | .node h cs =>
    if h = Tag.block.head then
      match hs : cs.filter fun c => !c.isLineMarker with
      | [statement] =>
        have : statement.size ≤ sizes cs :=
          size_le_sizes (List.mem_filter.1 (hs ▸ List.mem_singleton_self statement)).1
        unblock statement
      | _ => .node h cs
    else .node h cs
termination_by t => t.size
decreasing_by simp only [size]; omega

/-- A node with the given tag as it is, and any other tree as the only child of one. -/
def wrapped (tag : Tag) (t : Tree) : Tree :=
  if t.isTagged tag then t else tag.node [t]

def toBlock (t : Tree) : Tree :=
  t.wrapped .block

/-- The statements that a child contributes to the block around it. -/
def spliced : Tree → List Tree
  | .leaf x => [.leaf x]
  | .node h cs => if h = Tag.block.head then cs else [.node h cs]

/-- Splices the blocks among the children of a block into it. -/
def spliceBlocks : Tree → Tree
  | .leaf x => .leaf x
  | .node h cs => if h = Tag.block.head then .node h (cs.flatMap spliced) else .node h cs

/-- Splices nested blocks everywhere, in one walk from the leaves up. -/
def flatten (t : Tree) : Tree :=
  postwalk spliceBlocks t

def stripMarkers (t : Tree) : Tree :=
  prewalk dropMarkers t

end CodeTree.Tree
