import CodeTree.Tree.Basic

/-! The display of a tree as a constructor expression, for messages, and the room it takes. -/
namespace CodeTree
namespace Tree

mutual

/-- The display of a tree, unless it holds an integer too long to be converted. -/
def display? : Tree → Option String
  | .leaf x => x.display?
  | .node h cs => do
    let parts ← displays? cs
    return "Expr(" ++ ", ".intercalate (Text.display h :: parts) ++ ")"

def displays? : List Tree → Option (List String)
  | [] => some []
  | t :: ts => do return (← t.display?) :: (← displays? ts)

end

def plain? : Tree → Option String
  | .leaf x => x.plain?
  | t => t.display?

mutual

/-- How many nodes stand inside each other. -/
def nesting : Tree → Nat
  | .leaf _ => 0
  | .node _ cs => 1 + nestings cs

def nestings : List Tree → Nat
  | [] => 0
  | t :: ts => max t.nesting (nestings ts)

end
end Tree

/-- The stack of the host program, by the trees that it has room to display. A display goes down
into nodes, so one of a tree that is nested too deep does not fit; one of a leaf always does. -/
structure Stack where
  fits : Tree → Bool
  fits_leaf : ∀ x, fits (.leaf x) = true

/-- A stack with room for so many nodes inside each other. -/
def Stack.ofRoom (room : Nat) : Stack where
  fits t := decide (t.nesting ≤ room)
  fits_leaf _ := decide_eq_true (Nat.zero_le room)

end CodeTree
