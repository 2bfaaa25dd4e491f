import CodeTree.Tree.Tag

/-! Questions about the outermost shape of a tree. -/
namespace CodeTree

/-- A family of leaves. Booleans are integers too. -/
inductive Kind
  | nothing | boolean | integer | float | text | symbol | anything
  /-- A family that no leaf belongs to. -/
  | none
deriving DecidableEq

/-- What a tree can be tested for: its head if it is a node, its kind if it is a leaf. -/
inductive Mark
  | head (name : String)
  | kind (kind : Kind)
deriving DecidableEq

def Leaf.isKind : Leaf → Kind → Bool
  | _, .anything => true
  | .nothing, .nothing => true
  | .boolean _, .boolean => true
  | .boolean _, .integer => true
  | .integer _, .integer => true
  | .float _, .float => true
  | .text _, .text => true
  | .symbol _, .symbol => true
  | _, _ => false

namespace Tree

def head? : Tree → Option String
  | .leaf _ => none
  | .node h _ => some h

def children? : Tree → Option (List Tree)
  | .leaf _ => none
  | .node _ cs => some cs

def isNode : Tree → Bool
  | .leaf _ => false
  | .node .. => true

/-- Whether a tree is a node with the given head, or a leaf of the given kind. -/
def hasMark : Tree → Mark → Bool
  | .node h _, .head name => h == name
  | .leaf x, .kind k => x.isKind k
  | _, _ => false

def hasAnyMark (t : Tree) (marks : List Mark) : Bool :=
  marks.any t.hasMark

def isTagged (t : Tree) (tag : Tag) : Bool :=
  match t with
  | .leaf _ => false
  | .node h _ => h == tag.head

def childrenOf? (t : Tree) (head : String) : Option (List Tree) :=
  match t with
  | .leaf _ => none
  | .node h cs => if h = head then some cs else none

/-- The two children of a node with the given head and exactly two children. -/
def pairOf? (t : Tree) (tag : Tag) : Option (Tree × Tree) :=
  match t.childrenOf? tag.head with
  | some [a, b] => some (a, b)
  | _ => none

def call? (t : Tree) : Option (Tree × List Tree) :=
  match t.childrenOf? Tag.call.head with
  | some (callee :: args) => some (callee, args)
  | _ => none

/-- The arguments of a call whose callee is the given identifier. -/
def callTo? (t : Tree) (name : String) : Option (List Tree) :=
  match t.call? with
  | some (.leaf (.symbol callee), args) => if callee = name then some args else none
  | _ => none

/-- The same head over new children; leaves have no children to replace. -/
def withChildren? (t : Tree) (children : List Tree) : Option Tree :=
  match t with
  | .leaf _ => none
  | .node h _ => some (.node h children)

end Tree

/-- Nested conditionals from pairs of condition and body. The last branch is left out when it is
the empty leaf. -/
def conditionals (clauses : List (Tree × Tree)) (otherwise : Tree) : Tree :=
  clauses.foldr (fun (condition, body) rest =>
    Tag.conditional.node (if rest = .nothing then [condition, body] else [condition, body, rest]))
    otherwise

end CodeTree
