import CodeTree.Sexpr.Atom
import CodeTree.Text.Quoted

/-! Writing trees as parenthesized text. Lists that fit stay on one line; the others are broken over
indented lines, one child after another. -/
namespace CodeTree.Sexpr

/-- A finished piece of text by its lines, the first one without indentation. -/
abbrev Lines := List (List Char)

/-- An identifier stands bare if it would read back as itself, and between bars otherwise. None if
it spells an integer too long to be converted. -/
def symbolText? (name : List Char) : Option (List Char) :=
  if isAtom name then
    match atomLeaf? name with
    | some (.symbol _) => some name
    | some _ => some (Text.quote '|' name)
    | none => none
  else some (Text.quote '|' name)

def floatText : Number.Binary64 → List Char
  | .nan => nanWord
  | .infinite negative => if negative then negativeInfinityWord else positiveInfinityWord
  | x => x.text

/-- The text of a leaf. None if an integer in it is too long to be converted. -/
def leafText? : Leaf → Option (List Char)
  | .nothing => some ['(', ')']
  | .boolean b => some (if b then trueWord else falseWord)
  | .integer n => Number.integerText? n
  | .float x => some (floatText x)
  | .symbol name => symbolText? name.toList
  | .text s => some (Text.quote '"' s.toList)
  | .routine r => some r.shown.toList
  | .foreign shown? => shown?.map String.toList

def splitLines : List Char → Lines
  | [] => [[]]
  | c :: rest =>
    if c = '\n' then [] :: splitLines rest
    else match splitLines rest with
      | [] => [[c]]
      | line :: lines => (c :: line) :: lines

def joinLines : Lines → List Char
  | [] => []
  | [line] => line
  | line :: lines => line ++ '\n' :: joinLines lines

/-- Longest list kept on one line; none for no bound. -/
abbrev Width := Option Int

def fits (width : Width) (n : Nat) : Bool :=
  match width with
  | some w => (n : Int) ≤ w
  | none => true

def indentation (level : Nat) : List Char :=
  List.replicate (2 * level) ' '

/-- The characters of a list on one line: head, parentheses, and a blank before each part. -/
def flatWidth (head : List Char) (parts : List Lines) : Nat :=
  parts.foldl (fun n p => n + 1 + (p.headD []).length) (head.length + 2)

/-- The parts on one line, up to the closing parenthesis. -/
def flatParts : List Lines → List Char
  | [] => [')']
  | p :: parts => ' ' :: (p.headD [] ++ flatParts parts)

def flatLine (head : List Char) (parts : List Lines) : List Char :=
  '(' :: (head ++ flatParts parts)

/-- Puts a list on one line if every part is one line and the whole fits, and otherwise the head,
each part and the closing parenthesis on lines of their own. -/
def layout (width : Width) (level : Nat) (head : List Char) (parts : List Lines) : Lines :=
  if parts.all (fun p => p.length == 1) && fits width (flatWidth head parts) then
    [flatLine head parts]
  else
    ('(' :: head) ::
      parts.flatMap (fun p => (indentation (level + 1) ++ p.headD []) :: p.tail) ++
      [indentation level ++ [')']]

mutual

/-- The lines of a tree that stands at an indentation level. -/
def lines? (width : Width) (level : Nat) : Tree → Option Lines
  | .leaf x => (leafText? x).map splitLines
  | .node h cs => do
    let parts ← partLines? width (level + 1) cs
    let head ← symbolText? h.toList
    return layout width level head parts

def partLines? (width : Width) (level : Nat) : List Tree → Option (List Lines)
  | [] => some []
  | t :: ts => do return (← lines? width level t) :: (← partLines? width level ts)

end

def defaultWidth : Width := some 100

end Sexpr

/-- The text of a tree. None if an integer in it is too long to be converted. -/
def Tree.text? (t : Tree) (width : Sexpr.Width) : Option String :=
  (Sexpr.lines? width 0 t).map fun lines => String.ofList (Sexpr.joinLines lines)

/-- The text of a tree with lists broken only where a line feed inside them forces it. -/
def Tree.compactText? (t : Tree) : Option String :=
  t.text? none

def Tree.prettyText? (t : Tree) : Option String :=
  t.text? Sexpr.defaultWidth

end CodeTree
