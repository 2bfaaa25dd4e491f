import CodeTree.Sexpr.Reader

/-! What can go wrong, by cause. -/
namespace CodeTree

/-- A failure of the host program: a value that cannot be looked up, an integer too long to be
converted to text, or anything else that is raised, by its kind. -/
inductive Fault
  | unhashable
  | overlongInteger
  | raised (kind : String)
deriving DecidableEq

inductive Error
  | unreadable (cause : ReadError)
  | notALineMarker (tree : Tree)
  | namelessNode (tree : Tree)
  | namelessLeaf (tree : Tree)
  | notADefinition (tree : Tree)
  | ambiguousDefault (parameter : Tree)
  | aliasesExhausted (symbol : String) (available : Nat)
  | aliasUnavailable (symbol : String) (shown : String)
  | circularPasses
  | analysisMissing (pass : String)
  | passNotImplemented
  | attributeFixed (deleting : Bool) (name : String)
  | fault (cause : Fault)
deriving DecidableEq

end CodeTree
