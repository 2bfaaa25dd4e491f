import CodeTree.Number.Numeral
import CodeTree.Tree.Basic

/-! Bare atoms: which leaf an unquoted run of characters denotes, and which runs can stand bare. -/
namespace CodeTree.Sexpr
open Number

def trueWord : List Char := ['t', 'r', 'u', 'e']
def falseWord : List Char := ['f', 'a', 'l', 's', 'e']
def positiveInfinityWord : List Char := ['+', 'i', 'n', 'f']
def negativeInfinityWord : List Char := ['-', 'i', 'n', 'f']
def nanWord : List Char := ['+', 'n', 'a', 'n']

def reserved? (cs : List Char) : Option Leaf :=
  if cs = trueWord then some (.boolean true)
  else if cs = falseWord then some (.boolean false)
  else if cs = positiveInfinityWord then some (.float (.infinite false))
  else if cs = negativeInfinityWord then some (.float (.infinite true))
  else if cs = nanWord then some (.float .nan)
  else none

/-- The leaf denoted by a numeral; none if it is an integer too long to be converted. -/
def numeralLeaf? (n : Numeral) : Option Leaf :=
  match n with
  | .integer negative digits =>
    if n.isOverlong then none else some (.integer (signed negative (Text.digitsValue digits)))
  | .fraction .. => some (.float n.toBinary64)

/-- The leaf denoted by a bare atom: a reserved word, a number, or else an identifier. None if it is
an integer too long to be converted. -/
def atomLeaf? (cs : List Char) : Option Leaf :=
  match reserved? cs with
  | some leaf => some leaf
  | none =>
    match Numeral.ofChars? cs with
    | some n => numeralLeaf? n
    | none => some (.symbol (String.ofList cs))

def isAtomChar (c : Char) : Bool :=
  !(Text.isBlank c || c == '(' || c == ')' || c == '"' || c == ';')

/-- Characters that an atom may start with; a bar would start a quoted identifier. -/
def isAtomStart (c : Char) : Bool :=
  isAtomChar c && c != '|'

/-- Whether a run of characters is an atom from end to end. -/
def isAtom : List Char → Bool
  | [] => false
  | c :: rest => isAtomStart c && rest.all isAtomChar

end CodeTree.Sexpr
