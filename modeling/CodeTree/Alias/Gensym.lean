import CodeTree.Tree.Basic

/-! Generated identifiers, which are told by the mark in their name. -/
namespace CodeTree.Alias

/-- The character that marks a generated identifier. -/
def mark : Char := '#'

def isMarked (name : String) : Bool :=
  name.toList.contains mark

def isGensym : Tree → Bool
  | .leaf (.symbol name) => isMarked name
  | _ => false

/-- The generated name with a tag and a number. A number of more digits than the limit of
`Number.integerText?` has no text in the host program, which fails there. -/
def gensymName (tag : String) (number : Int) : String :=
  "##" ++ tag ++ "#" ++ toString number

/-- Counters that number generated names: the shared one, and private ones by name. Each holds the
next number. -/
structure Counters where
  shared : Int := 1
  own : List (String × Int) := []

namespace Counters

/-- The next number of a counter; a private counter starts at `start` when first used. -/
def next (cs : Counters) (counter? : Option String) (start : Int) : Int :=
  match counter? with
  | none => cs.shared
  | some counter => (cs.own.lookup counter).getD start

/-- Records that a counter has reached a number. -/
def advance (cs : Counters) (counter? : Option String) (number : Int) : Counters :=
  match counter? with
  | none => { cs with shared := number }
  | some counter => { cs with own := (counter, number) :: cs.own }

def gensym (cs : Counters) (counter? : Option String) (start : Int) (tag : String) :
    String × Counters :=
  let number := cs.next counter? start
  (gensymName tag number, cs.advance counter? (number + 1))

end Counters
end CodeTree.Alias
