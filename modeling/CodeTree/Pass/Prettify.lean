import CodeTree.Block
import CodeTree.Definition.Form
import CodeTree.Pass.Basic

/-! The passes that make generated code readable. -/
namespace CodeTree.Pass
variable {α : Type}

def flatten : Pass α where
  name := "FlattenPass"
  run t := return t.flatten

def unresolve : Pass α where
  name := "UnresolvePass"
  requires := ["FlattenPass"]
  run t := return t.nameRoutines (← get).naming

def resyntax : Pass α where
  name := "ResyntaxPass"
  requires := ["UnresolvePass"]
  run t := PassM.noteRules (Rule.transformAllNoted Operator.table t)

/-- Replaces generated identifiers by words; the table stays with the run. -/
def aliasGensyms : Pass α where
  name := "AliasGensymsPass"
  requires := ["ResyntaxPass"]
  run := PassM.aliasAll

/-- Removes line markers, unless the run keeps them. -/
def stripLines : Pass α where
  name := "StripLinesPass"
  requires := ["AliasGensymsPass"]
  run t := return if (← get).keepLines then t else t.stripMarkers

/-- The passes of `prettify` in the order of their registration. -/
def prettifying : List (Pass α) :=
  [flatten, unresolve, resyntax, aliasGensyms, stripLines]

end Pass

/-- Makes generated code readable: blocks are flattened, routines named, operators restored,
generated identifiers aliased and, unless they are kept, line markers removed. -/
def prettify {α : Type} (dump : Bool) (t : Tree) : PassM α Tree :=
  Pass.runAll Pass.prettifying dump t

end CodeTree
