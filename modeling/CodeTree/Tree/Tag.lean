import CodeTree.Tree.Basic

/-! The vocabulary of known heads. Any other head is carried along unchanged. -/
namespace CodeTree

inductive Tag
  | block | call | function | assign | arrow | typed | tuple | parameters | kw | line
  | conditional | quotation | dot | ref | curly | subtype | addAssign | ctranspose | transpose
  | macrocall | result
deriving DecidableEq

namespace Tag

def all : List Tag :=
  [.block, .call, .function, .assign, .arrow, .typed, .tuple, .parameters, .kw, .line,
   .conditional, .quotation, .dot, .ref, .curly, .subtype, .addAssign, .ctranspose, .transpose,
   .macrocall, .result]

/-- The head as it stands in a tree. -/
def head : Tag → String
  | .block => "block"
  | .call => "call"
  | .function => "function"
  | .assign => "="
  | .arrow => "->"
  | .typed => "::"
  | .tuple => "tuple"
  | .parameters => "parameters"
  | .kw => "kw"
  | .line => "line"
  | .conditional => "if"
  | .quotation => "quote"
  | .dot => "."
  | .ref => "ref"
  | .curly => "curly"
  | .subtype => "<:"
  | .addAssign => "+="
  | .ctranspose => "'"
  | .transpose => ".'"
  | .macrocall => "macrocall"
  | .result => "return"

def label : Tag → String
  | .block => "BLOCK"
  | .call => "CALL"
  | .function => "FUNCTION"
  | .assign => "ASSIGN"
  | .arrow => "ARROW"
  | .typed => "TYPED"
  | .tuple => "TUPLE"
  | .parameters => "PARAMETERS"
  | .kw => "KW"
  | .line => "LINE"
  | .conditional => "IF"
  | .quotation => "QUOTE"
  | .dot => "DOT"
  | .ref => "REF"
  | .curly => "CURLY"
  | .subtype => "SUBTYPE"
  | .addAssign => "ADD_ASSIGN"
  | .ctranspose => "CTRANSPOSE"
  | .transpose => "TRANSPOSE"
  | .macrocall => "MACROCALL"
  | .result => "RETURN"

/-- The tag of a head, if it is a known one. -/
def ofHead? (head : String) : Option Tag :=
  all.find? (·.head == head)

def ofLabel? (label : String) : Option Tag :=
  all.find? (·.label == label)

end Tag

/-- The node with a known head and the given children. -/
def Tag.node (tag : Tag) (children : List Tree) : Tree :=
  .node tag.head children

end CodeTree
