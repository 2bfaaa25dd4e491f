import CodeTree.Tree.Shape
import CodeTree.Walk

/-! Transformation rules: ordered tables in which the first rule that accepts a tree decides. -/
namespace CodeTree

/-- A named rule: what it binds in the trees it accepts, and what it builds from that. -/
structure Rule (β γ : Type) where
  name : String
  bind? : Tree → Option β
  build : β → γ

namespace Rule
variable {β γ : Type}

def first? (rules : List (Rule β γ)) (t : Tree) : Option (Rule β γ × β) :=
  rules.findSome? fun rule => (rule.bind? t).map (rule, ·)

def result? (rules : List (Rule β γ)) (t : Tree) : Option γ :=
  (first? rules t).map fun (rule, bound) => rule.build bound

/-- One step by a table; a tree that no rule accepts stays. -/
def transform (rules : List (Rule β Tree)) (t : Tree) : Tree :=
  (result? rules t).getD t

/-- One step that also notes the name of the rule, latest first. -/
def transformNoted (rules : List (Rule β Tree)) (t : Tree) : StateM (List String) Tree := do
  match first? rules t with
  | some (rule, bound) =>
    modify (rule.name :: ·)
    return rule.build bound
  | none => return t

def transformAll (rules : List (Rule β Tree)) (t : Tree) : Tree :=
  prewalk (transform rules) t

/-- Transforms a tree from the root down, with the names of the rules used, in order. -/
def transformAllNoted (rules : List (Rule β Tree)) (t : Tree) : Tree × List String :=
  let (result, names) := (prewalkM (transformNoted rules) t).run []
  (result, names.reverse)

end Rule
end CodeTree
