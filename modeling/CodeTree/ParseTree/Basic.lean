import CodeTree.Literal.Reader
import CodeTree.Number.Numeral
import CodeTree.ParseTree.Reserved
import CodeTree.Tree.Marker

/-! Parse trees of any grammar, and the code trees made of them. -/
namespace CodeTree

/-- A parse tree: rules with their parts, tokens by kind and text, and values put in by hand. Rules
and tokens may know their line. -/
inductive ParseTree
  | rule (name : String) (line? : Option Int) (parts : List ParseTree)
  | token (kind text : String) (line? : Option Int)
  | value (leaf : Leaf)
deriving Inhabited

namespace ParseTree

inductive Error
  | literal (cause : Literal.Error)
  | notANumber
  | reserved (cause : Refusal)
  | notARule
deriving DecidableEq

/-- How parse trees are converted: the file named in line markers, the rules whose parts get them,
and whether there are any at all. -/
structure Options where
  file? : Option Tree := none
  statementRules : List String := ["block"]
  lineMarkers : Bool := true

def stringKinds : List String := ["STRING", "ESCAPED_STRING"]

def numberKinds : List String :=
  ["NUMBER", "INT", "SIGNED_INT", "DECIMAL", "FLOAT", "SIGNED_FLOAT", "SIGNED_NUMBER", "DIGIT"]

/-- The leaf of a number: an integer if it can be read as one, else a floating-point number. -/
def number (text : String) : Except Error Leaf :=
  match Number.typedInteger? text.toList with
  | some n => .ok (.integer n)
  | none =>
    match Number.typedFloat? text.toList with
    | some x => .ok (.float x)
    | none => .error .notANumber

/-- The leaf of a token: a string, a number, or else an identifier. -/
def tokenLeaf (kind text : String) : Except Error Leaf :=
  if stringKinds.contains kind then
    ((Literal.read text.toList).map Literal.Value.leaf).mapError .literal
  else if numberKinds.contains kind then number text
  else .ok (.symbol text)

/-- A converted parse tree. It is placed if it came from a rule or token, even from one that does
not know its line. -/
structure Part where
  tree : Tree
  placed : Bool := false
  line? : Option Int := none

/-- The display of a part, with its line if it is placed. -/
def Part.display? (p : Part) : Option String := do
  let node ← p.tree.display?
  if p.placed then
    let line ← ((p.line?.map Leaf.integer).getD .nothing).display?
    return "_Positioned(node=" ++ node ++ ", line=" ++ line ++ ")"
  else return node

def displayParts? (parts : List Part) : Option String :=
  (parts.mapM Part.display?).map fun shown => "[" ++ ", ".intercalate shown ++ "]"

/-- Whether the parts of a rule get line markers: it must be a statement rule that knows its own
line. -/
def Options.marks (o : Options) (rule : String) (line? : Option Int) : Bool :=
  o.lineMarkers && line?.isSome && o.statementRules.contains rule

/-- A converted part, with a line marker before it if it is marked and knows its line. -/
def Options.marked (o : Options) (marks : Bool) (p : Part) : List Tree :=
  match marks, p.line? with
  | true, some line => [Tree.lineMarker (.leaf (.integer line)) o.file?, p.tree]
  | _, _ => [p.tree]

/-- A conversion carries the options that are in force. -/
abbrev Conversion := StateT Options (Except Error)

/-- The part for a reserved name, which is never placed. A restart puts the usual options in force,
with what it is `given` for the file. -/
def reservedPart (reserved : Reserved) (given : Leaf) (bare : Except Error Leaf) :
    Conversion Part :=
  match reserved with
  | .refused cause => throw (.reserved cause)
  | .leaf x => return { tree := .leaf x }
  | .bare => return { tree := .leaf (← bare) }
  | .restart => do
    set ({ file? := some (.leaf given) } : Options)
    return { tree := .nothing }

/-- A rule whose parts have been converted: a node. -/
def rulePart (name : String) (line? : Option Int) (parts : List Part) : Conversion Part :=
  match reservedRule? name with
  | some reserved =>
    let given := .foreign (displayParts? parts)
    reservedPart reserved given (.ok given)
  | none => do
    let o ← get
    return ⟨.node name (parts.flatMap (o.marked (o.marks name line?))), true, line?⟩

def tokenPart (kind text : String) (line? : Option Int) : Conversion Part :=
  match reservedKind? kind with
  | some reserved => reservedPart reserved (.text text) (tokenLeaf kind text)
  | none => return ⟨.leaf (← tokenLeaf kind text), true, line?⟩

mutual

/-- The parts of a rule are converted before the rule, from left to right. -/
def toPart : ParseTree → Conversion Part
  | .rule name line? parts => do rulePart name line? (← toParts parts)
  | .token kind text line? => tokenPart kind text line?
  | .value leaf => return { tree := .leaf leaf }

def toParts : List ParseTree → Conversion (List Part)
  | [] => return []
  | p :: ps => return (← toPart p) :: (← toParts ps)

end

def isRule : ParseTree → Bool
  | .rule .. => true
  | _ => false

/-- The code tree of a parse tree: a node for each rule and a leaf for each token. A whole parse
tree must be a rule. -/
def toTree (o : Options) (p : ParseTree) : Except Error Tree := do
  let (part, _) ← (toPart p).run o
  if p.isRule then return part.tree else .error .notARule

end ParseTree
end CodeTree
