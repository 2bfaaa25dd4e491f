import CodeTree.Error
import CodeTree.Sexpr.Printer
import CodeTree.Text.Lowercase
import CodeTree.Tree.Display

/-! Failures as they are reported: a code, a message, and the tree or the place concerned. -/
namespace CodeTree

structure Diagnostic where
  code : String
  message : String
  tree? : Option Tree := none
  line? : Option Int := none
  column? : Option Int := none

namespace Diagnostic

def general (message : String) : Diagnostic :=
  { code := "E0000", message }

def unreadable (message : String) (line? column? : Option Int) : Diagnostic :=
  { code := "E0001", message, line?, column? }

def notADefinition (tree : Tree) : Diagnostic :=
  { code := "E0101", message := "Not a function definition", tree? := some tree }

def ambiguousDefault (tree : Tree) : Diagnostic :=
  { code := "E0102", tree? := some tree
    message :=
      "splitarg cannot handle a None default; use a quoted value such as Symbol('nothing')" }

def aliasesExhausted (tree : Tree) (available : Int) : Diagnostic :=
  { code := "E0103", tree? := some tree
    message := "No unused alias left (" ++ toString available ++ " words in list)" }

def malformed (message : String) : Diagnostic :=
  { code := "E0104", message }

def aliasUnavailable (tree : Tree) (shown : String) : Diagnostic :=
  { code := "E0105", tree? := some tree
    message := "Alias strategy returned unavailable word " ++ shown }

private def number (n? : Option Int) : String :=
  (n?.map toString).getD "None"

/-- Code and message on one line, with the tree or the place concerned. None if the tree holds an
integer too long to be converted. -/
def text? (d : Diagnostic) : Option String := do
  let start := "[" ++ d.code ++ "] " ++ d.message
  match d.tree?, d.line? with
  | some tree, _ => return start ++ ": " ++ (← tree.compactText?)
  | none, some line =>
    return start ++ " (line " ++ number (some line) ++ ", column " ++ number d.column? ++ ")"
  | none, none => return start

def bold : String := "\x1b[1m"
def red : String := "\x1b[31m"
def blue : String := "\x1b[34m"
def plain : String := "\x1b[0m"

/-- Text between the controls that switch a style on and off. -/
def styled (color : Bool) (controls s : String) : String :=
  if color then controls ++ s ++ plain else s

/-- The report for a terminal: code and message, and on a second line the tree or the place. -/
def report? (color : Bool) (d : Diagnostic) : Option String := do
  let title := styled color (bold ++ red) ("error[" ++ d.code ++ "]") ++
    styled color bold (": " ++ d.message)
  let arrow := "\n" ++ styled color (bold ++ blue) " --> "
  match d.tree?, d.line? with
  | some tree, _ => return title ++ arrow ++ (← tree.compactText?)
  | none, some line => return title ++ arrow ++ number (some line) ++ ":" ++ number d.column?
  | none, none => return title

end Diagnostic

/-- Whether reports are in color, by two settings: a nonempty first one, and a second one that says
no, switch it off. -/
def wantsColor (noColor? color? : Option String) : Bool :=
  !(noColor?.any fun s => !s.isEmpty) &&
    !(["0", "false", "no", "never"].contains (Text.lower (color?.getD "")))

namespace ReadError

/-- The report of a text that cannot be read; none for a failure of the host program. -/
def diagnostic? : ReadError → Option Diagnostic
  | .unexpectedToken p =>
    some (.unreadable "Invalid S-expression: UnexpectedToken" (some p.line) (some p.column))
  | .unexpectedCharacters p =>
    some (.unreadable "Invalid S-expression: UnexpectedCharacters" (some p.line) (some p.column))
  | .headNotSymbol head =>
    head.display?.map fun shown =>
      .unreadable ("List head must be a symbol, got " ++ shown) none none
  | .headTooDeep | .overlongInteger => none

end ReadError

namespace Error

/-- The report of a failure; none for one that is not reported in this form. -/
def diagnostic? : Error → Option Diagnostic
  | .unreadable cause => cause.diagnostic?
  | .notALineMarker t => some { Diagnostic.malformed "Not a line marker" with tree? := some t }
  | .namelessNode t =>
    some { Diagnostic.malformed "Cannot namify a node without children" with tree? := some t }
  | .namelessLeaf t =>
    some { Diagnostic.malformed "Cannot namify a non-symbol leaf" with tree? := some t }
  | .notADefinition t => some (.notADefinition t)
  | .ambiguousDefault t => some (.ambiguousDefault t)
  | .aliasesExhausted symbol available => some (.aliasesExhausted (.symbol symbol) available)
  | .aliasUnavailable symbol shown => some (.aliasUnavailable (.symbol symbol) shown)
  | _ => none

/-- The message of a failure that has no report. -/
def message? : Error → Option String
  | .circularPasses => some "Circular dependency detected in passes"
  | .analysisMissing pass => some ("Analysis " ++ pass ++ " not available")
  | .attributeFixed deleting name =>
    some ("Expr is immutable; cannot " ++ (if deleting then "delete " else "set ") ++
      Text.display name)
  | _ => none

end Error
end CodeTree
