import CodeTree.Tree.Basic

/-! Walks over a tree that change it node by node, from the leaves up or from the root down. A walk
keeps the nodes it is inside of as frames, so it is a loop and not a recursion on the depth of the
tree. The change may have effects. -/
namespace CodeTree

/-- A node under construction: its finished children, latest first, and those still to come. -/
structure Frame where
  head : String
  done : List Tree
  pending : List Tree

namespace Frame

def close (frame : Frame) : Tree :=
  .node frame.head frame.done.reverse

def push (frame : Frame) (child : Tree) : Frame :=
  { frame with done := child :: frame.done }

/-- Bound for the steps that a frame still needs in a walk from the leaves up. -/
def work (frame : Frame) : Nat :=
  1 + 2 * Tree.sizes frame.pending

def works : List Frame → Nat
  | [] => 0
  | frame :: outer => frame.work + works outer

end Frame

variable {m : Type → Type} [Monad m]

def postwalkFrom (f : Tree → m Tree) : Frame → List Frame → m Tree
  | ⟨head, done, .leaf x :: pending⟩, outer => do
    let child ← f (.leaf x)
    postwalkFrom f ⟨head, child :: done, pending⟩ outer
  | ⟨head, done, .node h cs :: pending⟩, outer =>
    postwalkFrom f ⟨h, [], cs⟩ (⟨head, done, pending⟩ :: outer)
  | ⟨head, done, []⟩, [] => f (Frame.close ⟨head, done, []⟩)
  | ⟨head, done, []⟩, parent :: outer => do
    let result ← f (Frame.close ⟨head, done, []⟩)
    postwalkFrom f (parent.push result) outer
termination_by frame outer => Frame.works (frame :: outer)
decreasing_by
  all_goals
    simp only [Frame.works, Frame.work, Frame.push, Tree.sizes, Tree.size]
    omega

/-- Applies `f` to every node after it has been applied to its children. -/
def postwalkM (f : Tree → m Tree) : Tree → m Tree
  | .leaf x => f (.leaf x)
  | .node h cs => postwalkFrom f ⟨h, [], cs⟩ []

/-- Finishes the open frames, innermost first, from the root down, in at most the given number of
steps. -/
def prewalkFrom? (f : Tree → m Tree) : Nat → Frame → List Frame → m (Option Tree)
  | 0, _, _ => pure none
  | limit + 1, ⟨head, done, child :: pending⟩, outer => do
    match ← f child with
    | .leaf x => prewalkFrom? f limit ⟨head, .leaf x :: done, pending⟩ outer
    | .node h cs => prewalkFrom? f limit ⟨h, [], cs⟩ (⟨head, done, pending⟩ :: outer)
  | _ + 1, ⟨head, done, []⟩, [] => pure (some (Frame.close ⟨head, done, []⟩))
  | limit + 1, ⟨head, done, []⟩, parent :: outer =>
    prewalkFrom? f limit (parent.push (Frame.close ⟨head, done, []⟩)) outer

/-- Applies `f` to every node before its children and goes on in the children of the answer. A
function that recreates its own input has no end, so the steps are limited. -/
def prewalkM? (f : Tree → m Tree) (limit : Nat) (t : Tree) : m (Option Tree) := do
  match ← f t with
  | .leaf x => pure (some (.leaf x))
  | .node h cs => prewalkFrom? f limit ⟨h, [], cs⟩ []

/-- Steps that suffice for a function whose new nodes are not changed again and that puts at most
two of them above each old node. -/
def prewalkSteps (t : Tree) : Nat :=
  8 * t.size + 8

/-- The walk from the root down for the functions of this library, which end within
`prewalkSteps`. -/
def prewalkM (f : Tree → m Tree) (t : Tree) : m Tree := do
  return (← prewalkM? f (prewalkSteps t) t).getD t

/-- Applies `inner` to the children, then `outer` to the node. -/
def walkM (inner outer : Tree → m Tree) : Tree → m Tree
  | .leaf x => outer (.leaf x)
  | .node h cs => do outer (.node h (← cs.mapM inner))

def postwalk (f : Tree → Tree) (t : Tree) : Tree :=
  Id.run (postwalkM (fun t => pure (f t)) t)

def prewalk (f : Tree → Tree) (t : Tree) : Tree :=
  Id.run (prewalkM (fun t => pure (f t)) t)

end CodeTree
