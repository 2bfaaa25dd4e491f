import CodeTree.Command.Arguments
import CodeTree.Diagnostic
import CodeTree.Folder
import CodeTree.Pass.Prettify

/-! What the command does: it reads trees, makes them readable and prints them. -/
namespace CodeTree.Command

/-- Where the text to be read comes from, with the absolute path of a file. -/
inductive Source
  | text (content : String)
  | missing (path : String)
  | notAFile (path : String)
  | faulty (reason : String)

/-- What surrounds a run: the settings of color, the words for aliases, the way to pick from them
when the choice is free, and the room on the stack. -/
structure Surroundings where
  color : Bool
  words : List String
  random : Alias.Strategy
  stack : Stack

structure Outcome where
  code : Nat
  output : String
  errors : String

/-- The definitions of a tree in the form that is asked for. -/
def reshape {α : Type} (form : Form) (t : Tree) : PassM α Tree :=
  match form with
  | .asWritten => return t
  | .long => PassM.noteRules (Rule.transformAllNoted Definition.lengthening t)
  | .short => PassM.noteRules (Rule.transformAllNoted Definition.shortening t)

def width (o : Options) : Sexpr.Width :=
  if o.compact then none else Sexpr.defaultWidth

def printed (o : Options) (t : Tree) : PassM Unit String := do
  let t ← prettify o.verbose (← reshape o.form t)
  match t.text? (width o) with
  | some s => return s ++ "\n"
  | none => throw (.fault .overlongInteger)

def session (o : Options) (table : Alias.Table) : Session Unit :=
  { keepLines := o.keepLines, table? := some table, fresh := table }

/-- The texts printed for trees until one fails, the events on the way, and the failure. -/
def printAll (o : Options) (table : Alias.Table) :
    List Tree → List String × List Event × Option Error
  | [] => ([], [], none)
  | t :: ts =>
    match (printed o t).run (session o table) with
    | .ok s after =>
      let (texts, events, failure?) := printAll o table ts
      (s :: texts, after.log.reverse ++ events, failure?)
    | .error e after => ([], after.log.reverse, some e)

def logged (o : Options) (events : List Event) : String :=
  if o.verbose then String.join (events.map fun e => e.line ++ "\n") else ""

/-- The end of a run by a failure; failures without a report end it abruptly. -/
def failed (s : Surroundings) (output errors : String) (e : Error) : Except Error Outcome :=
  match e.diagnostic? with
  | some d =>
    match d.report? s.color with
    | some report => .ok ⟨1, output, errors ++ report ++ "\n"⟩
    | none => .error (.fault .overlongInteger)
  | none => .error e

/-- The table that a run starts with for each tree. -/
def table (o : Options) (s : Surroundings) : Alias.Table :=
  .ofWords s.words (if o.deterministic then .firstUnused else s.random)

def runText (o : Options) (s : Surroundings) (content : String) : Except Error Outcome :=
  match readAll s.stack content with
  | .error e => failed s "" "" (.unreadable e)
  | .ok trees =>
    let (texts, events, failure?) := printAll o (table o s) trees
    let output := String.join texts
    match failure? with
    | none => .ok ⟨0, output, logged o events⟩
    | some e => failed s output (logged o events) e

def run (o : Options) (s : Surroundings) : Source → Except Error Outcome
  | .text content => runText o s content
  | .missing path => .ok ⟨1, "", "syntree: error: file not found: " ++ path ++ "\n"⟩
  | .notAFile path => .ok ⟨1, "", "syntree: error: not a file: " ++ path ++ "\n"⟩
  | .faulty reason => .ok ⟨1, "", "syntree: error: could not read file: " ++ reason ++ "\n"⟩

/-- The source that stands at an absolute path, if its text can be decoded. -/
def Source.ofFound (path : String) : Found → Except FileError Source
  | .missing => .ok (.missing path)
  | .folder => .ok (.notAFile path)
  | .file .faulty => .ok (.faulty "[Errno 5] Input/output error")
  | found => found.text.map .text

/-- The source for the options of a run, in a folder and with the text at the standard input. -/
def source (folder : Folder) (input : String) (o : Options) : Except FileError Source :=
  match o.file? with
  | none => .ok (.text input)
  | some file => Source.ofFound (folder.absolute file) (folder.find (folder.absolute file))

end CodeTree.Command
