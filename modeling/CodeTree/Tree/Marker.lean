import CodeTree.Error
import CodeTree.Tree.Display
import CodeTree.Tree.Shape

/-! Line markers, which say where the statement after them came from. -/
namespace CodeTree

/-- A place in a source file, as a line marker records it. -/
structure Location where
  line : Tree
  file : Tree

namespace Tree

def isLineMarker (t : Tree) : Bool :=
  t.isTagged .line

/-- The line marker for a line, and for a file when it is known. -/
def lineMarker (line : Tree) (file : Option Tree) : Tree :=
  Tag.line.node (line :: file.toList)

def location (t : Tree) : Except Error Location :=
  match t.childrenOf? Tag.line.head with
  | some (line :: rest) => .ok ⟨line, rest.headD .nothing⟩
  | _ => .error (.notALineMarker t)

/-- A node without the line markers among its children. -/
def dropMarkers : Tree → Tree
  | .leaf x => .leaf x
  | .node h cs => .node h (cs.filter fun c => !c.isLineMarker)

/-- The identifier reached by following first children. -/
def baseName : Tree → Except Error Tree
  | .leaf (.symbol name) => .ok (.symbol name)
  | .leaf x => .error (.namelessLeaf (.leaf x))
  | .node h [] => .error (.namelessNode (.node h []))
  | .node _ (first :: _) => baseName first

def isTruthy : Tree → Bool
  | .leaf x => x.isTruthy
  | .node .. => true

end Tree

/-- The text `file:line`, or `line n` when no file is known. -/
def Location.text? (l : Location) : Option String := do
  if l.file.isTruthy then return (← l.file.plain?) ++ ":" ++ (← l.line.plain?)
  else return "line " ++ (← l.line.plain?)

end CodeTree
