import CodeTree.Tree.Equality
import CodeTree.Walk

/-! Search for a subtree, and replacement of every occurrence of it. -/
namespace CodeTree.Tree

/-- Whether some node or leaf equals the target. The walk notes the first hit and looks no
further. -/
def occursIn (target tree : Tree) : Bool :=
  let check (t : Tree) : StateM Bool Tree := do
    if !(← get) && t.equals target then set true
    return t
  (postwalkM check tree |>.run false).2

/-- Finishes the open frames, innermost first; a node that equals `old` is not entered. -/
def replaceFrom (old new : Tree) : Frame → List Frame → Tree
  | ⟨head, done, .leaf x :: pending⟩, outer =>
    let child := if (leaf x).equals old then new else .leaf x
    replaceFrom old new ⟨head, child :: done, pending⟩ outer
  | ⟨head, done, .node h cs :: pending⟩, outer =>
    if (node h cs).equals old then replaceFrom old new ⟨head, new :: done, pending⟩ outer
    else replaceFrom old new ⟨h, [], cs⟩ (⟨head, done, pending⟩ :: outer)
  | ⟨head, done, []⟩, [] => Frame.close ⟨head, done, []⟩
  | ⟨head, done, []⟩, parent :: outer =>
    replaceFrom old new (parent.push (Frame.close ⟨head, done, []⟩)) outer
termination_by frame outer => Frame.works (frame :: outer)
decreasing_by
  all_goals
    simp only [Frame.works, Frame.work, Frame.push, sizes, size]
    omega

/-- Puts `new` in place of every outermost node or leaf that equals `old`. What has been put in is
not looked at again. -/
def replace (old new tree : Tree) : Tree :=
  if tree.equals old then new
  else match tree with
    | .leaf x => .leaf x
    | .node h cs => replaceFrom old new ⟨h, [], cs⟩ []

end CodeTree.Tree
