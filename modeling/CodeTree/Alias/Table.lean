import CodeTree.Alias.Gensym
import CodeTree.Alias.Words
import CodeTree.Error
import CodeTree.Walk

/-! The aliases of generated identifiers: each gets a word of its own, the same at every
occurrence. -/
namespace CodeTree.Alias

/-- What comes back from a strategy. Any value of the host program may: a text, a value of another
kind, whose display may fail, or one that cannot even be looked up. A strategy may also fail
itself. -/
inductive Answer
  | text (word : String)
  | other (display : Except Fault String)
  | unhashable
  | failed (cause : Fault)

namespace Answer

/-- The display of an answer that has been looked up in vain. -/
def display : Answer → Except Fault String
  | .text word => .ok (Text.display word)
  | .other display => display
  | .unhashable => .error .unhashable
  | .failed cause => .error cause

/-- Why an answer is refused that is no unused word. -/
def refusal (answer : Answer) (symbol : String) : Error :=
  match answer.display with
  | .ok shown => .aliasUnavailable symbol shown
  | .error cause => .fault cause

end Answer

/-- Picks a word from the unused ones. Only an unused word is accepted. -/
abbrev Strategy := List String → Answer

namespace Strategy

/-- The least of the unused words by code points. -/
def firstUnused : Strategy
  | [] => .failed (.raised "ValueError")
  | w :: ws => .text (ws.foldl (fun least w => if w < least then w else least) w)

/-- A word that depends on a seed and on how many words are left. -/
def seeded (seed : Nat) : Strategy := fun candidates =>
  let (pick, _) := randNat (mkStdGen (seed + candidates.length)) 0 (candidates.length - 1)
  match candidates[pick]? with
  | some w => .text w
  | none => .failed (.raised "IndexError")

end Strategy

/-- Aliases chosen so far, in order of choice, and the words they have used up. -/
structure Table where
  words : List String
  strategy : Strategy
  aliases : List (String × String) := []
  used : List String := []

namespace Table

/-- A table without aliases over the words of a list in lower case, each one once. Words that look
generated are left out. -/
def ofWords (words : List String) (strategy : Strategy) : Table :=
  { words := ((words.filter fun w => !isMarked w).map Text.lower).eraseDups, strategy }

def get? (table : Table) (symbol : String) : Option String :=
  table.aliases.lookup symbol

def contains (table : Table) : Tree → Bool
  | .leaf (.symbol name) => (table.get? name).isSome
  | _ => false

def unused (table : Table) : List String :=
  table.words.filter fun w => !table.used.contains w

def record (table : Table) (symbol word : String) : Table :=
  { table with aliases := table.aliases ++ [(symbol, word)], used := word :: table.used }

/-- The alias of an identifier, chosen and recorded when it is first asked for. -/
def wordFor (table : Table) (symbol : String) : Except Error (String × Table) :=
  match table.get? symbol with
  | some word => .ok (word, table)
  | none =>
    if table.unused.isEmpty then .error (.aliasesExhausted symbol table.words.length)
    else
      match table.strategy table.unused with
      | .text word =>
        if table.used.contains word || !table.words.contains word then
          .error ((Answer.text word).refusal symbol)
        else .ok (word, table.record symbol word)
      | answer => .error (answer.refusal symbol)

end Table

/-- The alias of an identifier, asked for as an action on the table. A failed choice leaves the
table as it was. -/
def ask (symbol : String) : EStateM Error Table String := do
  match (← get).wordFor symbol with
  | .ok (word, table) =>
    set table
    return word
  | .error e => throw e

def aliasLeaf : Tree → EStateM Error Table Tree
  | .leaf (.symbol name) => do
    if isMarked name then return .symbol (← ask name) else return .symbol name
  | t => return t

/-- Replaces the generated identifiers of a tree by their aliases. The aliases chosen before a
failure stay in the table. -/
def aliasAll (t : Tree) : EStateM Error Table Tree :=
  prewalkM aliasLeaf t

/-- Expands a tree and makes the generated identifiers of the outcome readable. -/
def expand {γ : Type} (expander : γ → Tree → Tree) (context : γ) (t : Tree) :
    EStateM Error Table Tree :=
  aliasAll (expander context t)

end CodeTree.Alias
