import CodeTree.Rule
import CodeTree.Tree.Equality

/-! Surface syntax for calls to primitives: indexing, tuples, transposition and assignment to a
field. Live routines are first replaced by their names. -/
namespace CodeTree

/-- The name under which a routine appears in a tree. -/
abbrev Naming := Routine → String

namespace Tree

def nameRoutine (naming : Naming) : Tree → Tree
  | .leaf (.routine r) => .symbol (naming r)
  | t => t

def nameRoutines (naming : Naming) (t : Tree) : Tree :=
  prewalk (nameRoutine naming) t

end Tree

namespace Operator

inductive Bound
  | field (object name value : Tree)
  | call (args : List Tree)

def isQuotedSymbol (t : Tree) : Bool :=
  match t.childrenOf? Tag.quotation.head with
  | some [.leaf (.symbol _)] => true
  | _ => false

/-- Object, quoted field name and value of an assignment to a field. -/
def fieldAssignment? (t : Tree) : Option (Tree × Tree × Tree) :=
  match t.callTo? "setfield!" with
  | some [object, name, value] => if isQuotedSymbol name then some (object, name, value) else none
  | _ => none

def fieldAccess (object name : Tree) : Tree :=
  Tag.dot.node [object, name]

/-- Binds an assignment that adds to the field it assigns to. -/
def increment? (t : Tree) : Option Bound := do
  let (object, name, value) ← fieldAssignment? t
  match value.callTo? "+" with
  | some [current, step] =>
    if current.equals (fieldAccess object name) then some (.field object name step) else none
  | _ => none

def assignment? (t : Tree) : Option Bound :=
  (fieldAssignment? t).map fun (object, name, value) => .field object name value

/-- Binds a call to one of the primitives with an acceptable number of arguments. -/
def primitive? (names : List String) (arity : Nat → Bool) (t : Tree) : Option Bound :=
  match names.findSome? t.callTo? with
  | some args => if arity args.length then some (.call args) else none
  | none => none

/-- The node for a binding under a known head; a field takes the first child's place. -/
def Bound.under (tag : Tag) : Bound → Tree
  | .field object name value => tag.node [fieldAccess object name, value]
  | .call args => tag.node args

/-- From primitive calls to operators. -/
def table : List (Rule Bound Tree) :=
  [⟨"setfield-increment", increment?, Bound.under .addAssign⟩,
   ⟨"setfield", assignment?, Bound.under .assign⟩,
   ⟨"getindex", primitive? ["getindex", "getitem"] (1 ≤ ·), Bound.under .ref⟩,
   ⟨"tuple", primitive? ["tuple"] (fun _ => true), Bound.under .tuple⟩,
   ⟨"ctranspose", primitive? ["ctranspose"] (· == 1), Bound.under .ctranspose⟩,
   ⟨"transpose", primitive? ["transpose"] (· == 1), Bound.under .transpose⟩]

def restore (t : Tree) : Tree :=
  Rule.transformAll table t

end Operator
end CodeTree
