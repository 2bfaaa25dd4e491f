import CodeTree.Sexpr.Token
import CodeTree.Tree.Display

/-! Reading trees from parenthesized text. -/
namespace CodeTree

/-- A place in a text; lines and columns count from one. -/
structure Position where
  line : Nat
  column : Nat
deriving DecidableEq

def Position.after (cs : List Char) : Position :=
  ⟨1 + cs.count '\n', 1 + (cs.reverse.takeWhile (· != '\n')).length⟩

/-- Why a text is no tree. A head that is no identifier is shown in the report, so one that is
nested too deep to be displayed fails in another way. -/
inductive ReadError
  | unexpectedToken (position : Position)
  | unexpectedCharacters (position : Position)
  | headNotSymbol (head : Tree)
  | headTooDeep
  | overlongInteger
deriving DecidableEq

namespace Sexpr

inductive Datum
  | atom (chars : List Char)
  | text (raw : List Char)
  | quoted (raw : List Char)
  | list (items : List Datum)

/-- How far a text has been understood: the finished data, latest first, and the items of the lists
that are still open, innermost list first and latest item first. -/
structure Progress where
  finished : List Datum
  opened : List (List Datum)

namespace Progress

def start : Progress := ⟨[], []⟩

def add (p : Progress) (d : Datum) : Progress :=
  match p.opened with
  | [] => { p with finished := d :: p.finished }
  | items :: outer => { p with opened := (d :: items) :: outer }

/-- One more token; none if no continuation of the text could be right. -/
def next? (single : Bool) (p : Progress) (token : Token) : Option Progress :=
  if single && p.opened.isEmpty && !p.finished.isEmpty then none
  else match token with
    | .opening => some { p with opened := [] :: p.opened }
    | .closing =>
      match p.opened with
      | [] => none
      | items :: outer => some (add { p with opened := outer } (.list items.reverse))
    | .text raw => some (p.add (.text raw))
    | .quoted raw => some (p.add (.quoted raw))
    | .atom chars => some (p.add (.atom chars))

def isComplete (single : Bool) (p : Progress) : Bool :=
  p.opened.isEmpty && !(single && p.finished.isEmpty)

end Progress

/-- Follows the tokens as far as they fit: the offset of the first one that does not, or the
progress after the last one. -/
def follow (single : Bool) (p : Progress) : List Lexeme → Except Nat Progress
  | [] => .ok p
  | lexeme :: rest =>
    match p.next? single lexeme.token with
    | some p => follow single p rest
    | none => .error lexeme.offset

/-- The data of a text: exactly one if `single`. The first problem in the order of the text is
reported; a text that ends too early is reported at its last token. -/
def data (single : Bool) (cs : List Char) : Except ReadError (List Datum) :=
  let scan := scan cs
  match follow single .start scan.lexemes with
  | .error offset => .error (.unexpectedToken (.after (cs.take offset)))
  | .ok p =>
    match scan.stuck with
    | some offset => .error (.unexpectedCharacters (.after (cs.take offset)))
    | none =>
      if p.isComplete single then .ok p.finished.reverse
      else
        let offset := (scan.lexemes.getLast?.map Lexeme.offset).getD 0
        .error (.unexpectedToken (.after (cs.take offset)))

/-- The tree of a list by its items: the empty list is the empty leaf, and any other starts with the
head. -/
def listTree (stack : Stack) : List Tree → Except ReadError Tree
  | [] => .ok .nothing
  | .leaf (.symbol name) :: children => .ok (.node name children)
  | head :: _ => .error (if stack.fits head then .headNotSymbol head else .headTooDeep)

mutual

/-- The tree of a datum, inner data before outer ones and from left to right. -/
def Datum.tree (stack : Stack) : Datum → Except ReadError Tree
  | .atom chars =>
    match atomLeaf? chars with
    | some leaf => .ok (.leaf leaf)
    | none => .error .overlongInteger
  | .text raw => .ok (.leaf (.text (String.ofList (Text.unescape raw))))
  | .quoted raw => .ok (.symbol (String.ofList (Text.unescape raw)))
  | .list items => do listTree stack (← trees stack items)

def trees (stack : Stack) : List Datum → Except ReadError (List Tree)
  | [] => .ok []
  | d :: ds => do return (← d.tree stack) :: (← trees stack ds)

end
end Sexpr

def readAll (stack : Stack) (s : String) : Except ReadError (List Tree) := do
  Sexpr.trees stack (← Sexpr.data false s.toList)

def read (stack : Stack) (s : String) : Except ReadError Tree := do
  match ← Sexpr.data true s.toList with
  | d :: _ => d.tree stack
  | [] => .error (.unexpectedToken (.after []))

end CodeTree
