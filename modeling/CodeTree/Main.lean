import CodeTree.Alias.Loader
import CodeTree.Command.Run

/-! The command line. -/
namespace CodeTree.Command

/-- What stands at a path on the disk. -/
def onDisk (path : String) : IO Found := do
  try
    return .file (.bytes (← IO.FS.readBinFile path))
  catch
    | .noFileOrDirectory .. => return .missing
    | .inappropriateType .. => return .folder
    | _ => return .file .faulty

def FileError.message : FileError → String
  | .missing => "no such file"
  | .isFolder => "not a file"
  | .faulty => "cannot be read"
  | .notText => "not a text in UTF-8"

def required {α : Type} : Except FileError α → IO α
  | .ok a => return a
  | .error e => throw (IO.userError (FileError.message e))

/-- The words for aliases, from the file in the settings if there is one. -/
def wordsOnDisk : IO (List String) := do
  let loader : Alias.Loader := { setting := (← IO.getEnv "SYNTREE_WORDLIST").getD "" }
  match loader.path? none with
  | none => return Alias.packagedWords
  | some path => return Alias.wordsOfText (← required (← onDisk path).text)

def sourceOnDisk (o : Options) : IO Source := do
  match o.file? with
  | none => return .text (← (← IO.getStdin).readToEnd)
  | some file =>
    let folder : Folder := ⟨(← IO.currentDir).toString, []⟩
    let path := folder.absolute file
    required (Source.ofFound path (← onDisk path))

def runOnDisk (o : Options) : IO UInt32 := do
  let color := wantsColor (← IO.getEnv "NO_COLOR") (← IO.getEnv "SYNTREE_COLOR")
  let seed ← match o.seed? with
    | some n => pure n.toNat
    | none => IO.rand 0 0xFFFFFFFF
  match run o ⟨color, ← wordsOnDisk, .seeded seed, .ofRoom 1000⟩ (← sourceOnDisk o) with
  | .ok outcome =>
    IO.print outcome.output
    IO.eprint outcome.errors
    return outcome.code.toUInt32
  | .error _ =>
    IO.eprintln "an integer is too long or a head is nested too deep"
    return 1

def usage : String :=
  "usage: syntree [-h] [--keep-lines] [--longdef | --shortdef] [--seed SEED] [--deterministic] " ++
    "[--compact] [-v] [file]"

end CodeTree.Command

open CodeTree.Command in
/-- Prints the trees of a file, or of the standard input, in readable form. -/
def main (args : List String) : IO UInt32 := do
  match parse args with
  | .error .help =>
    IO.println usage
    return 0
  | .error .misuse =>
    IO.eprintln usage
    return 2
  | .ok o => runOnDisk o
