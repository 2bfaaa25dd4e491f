import CodeTree.Alias.Table
import CodeTree.Operator
import CodeTree.Pass.Schedule
import CodeTree.Sexpr.Printer

/-! Passes over a tree, run one after another in an order that respects what they require. -/
namespace CodeTree

/-- Something worth noting that happened during a run. -/
inductive Event
  | started (pass : String)
  | finished (pass : String) (tree : String)
  | matched (rule : String)
  | aliased (symbol word : String)
deriving DecidableEq

/-- The line of a log, with the part of the program that speaks. -/
def Event.line : Event → String
  | .started pass => "syntree.passes.base: Running " ++ pass
  | .finished pass tree => "syntree.passes.base: After " ++ pass ++ ":\n" ++ tree
  | .matched rule => "syntree.shared.patterns: [rules] " ++ rule ++ " matched"
  | .aliased symbol word => "syntree.passes.gensyms: [alias_gensyms] " ++ symbol ++ " -> " ++ word

/-- The state of one run: its options, the alias table, the results of analyses by pass, and the
log, latest event first. A run that needs a table and has none starts with `fresh`. -/
structure Session (α : Type) where
  keepLines : Bool := false
  naming : Naming := Routine.name
  table? : Option Alias.Table := none
  fresh : Alias.Table
  analyses : List (String × α) := []
  log : List Event := []

/-- A computation in a run. What has happened before a failure stays. -/
abbrev PassM (α : Type) := EStateM Error (Session α)

/-- A pass with the names of the passes it must come after. -/
structure Pass (α : Type) where
  name : String
  requires : List String := []
  run : Tree → PassM α Tree

namespace PassM
variable {α : Type}

def note (e : Event) : PassM α Unit :=
  modify fun s => { s with log := e :: s.log }

def analysis (pass : String) : PassM α α := do
  match (← get).analyses.lookup pass with
  | some result => return result
  | none => throw (.analysisMissing pass)

def storeAnalysis (pass : String) (result : α) : PassM α Unit :=
  modify fun s => { s with analyses := (pass, result) :: s.analyses }

/-- Takes over a transformed tree and notes the rules that were used. -/
def noteRules : Tree × List String → PassM α Tree
  | (t, rules) => do
    rules.forM fun rule => note (.matched rule)
    return t

/-- Keeps a table and notes the aliases that it has beyond those of an earlier one. -/
def keepTable (earlier table : Alias.Table) : PassM α Unit := do
  (table.aliases.drop earlier.aliases.length).forM fun (symbol, word) =>
    note (.aliased symbol word)
  modify fun s => { s with table? := some table }

/-- Aliases the generated identifiers of a tree with the table of the run, which keeps the aliases
chosen before a failure. -/
def aliasAll (t : Tree) : PassM α Tree := do
  let s ← get
  let table := s.table?.getD s.fresh
  match (Alias.aliasAll t).run table with
  | .ok t after =>
    keepTable table after
    return t
  | .error e after =>
    keepTable table after
    throw e

end PassM

namespace Pass
variable {α : Type}

/-- Runs one pass; with `dump` the tree after it goes to the log. -/
def runNoted (dump : Bool) (t : Tree) (pass : Pass α) : PassM α Tree := do
  PassM.note (.started pass.name)
  let t ← pass.run t
  if dump then
    match t.prettyText? with
    | some text => PassM.note (.finished pass.name text)
    | none => throw (.fault .overlongInteger)
  return t

def order (passes : List (Pass α)) : Except Error (List (Pass α)) :=
  match Schedule.order? Pass.name Pass.requires passes with
  | some order => .ok order
  | none => .error .circularPasses

/-- Runs all passes in order. If there is no order, none of them runs. -/
def runAll (passes : List (Pass α)) (dump : Bool) (t : Tree) : PassM α Tree :=
  match order passes with
  | .ok order => order.foldlM (runNoted dump) t
  | .error e => throw e

end Pass
end CodeTree
