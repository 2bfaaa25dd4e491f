import CodeTree.Text.LineEnd

/-! A folder of files, as far as a command looks at it. -/
namespace CodeTree

/-- What a file holds; a faulty one is there but cannot be read. -/
inductive FileContent
  | bytes (content : ByteArray)
  | faulty

inductive Found
  | missing
  | folder
  | file (content : FileContent)

inductive FileError
  | missing
  | isFolder
  | faulty
  | notText
deriving DecidableEq

/-- The text of what was found, with line ends of every kind as line feeds. -/
def Found.text : Found → Except FileError String
  | .missing => .error .missing
  | .folder => .error .isFolder
  | .file .faulty => .error .faulty
  | .file (.bytes content) =>
    match String.fromUTF8? content with
    | some s => .ok (String.ofList (Text.unifyLines s.toList))
    | none => .error .notText

def pathSteps (path : String) : List String :=
  (path.splitOn "/").filter fun step => step != "" && step != "."

def pathName (path : String) : String :=
  (pathSteps path).getLastD ""

/-- Follows the steps of a path, where two dots go back one step. -/
def followSteps (steps : List String) : List String :=
  (steps.foldl (fun passed step => if step = ".." then passed.tail else step :: passed) []).reverse

/-- A folder by its absolute path and the files in it. -/
structure Folder where
  path : String
  files : List (String × FileContent)

namespace Folder

def absolute (folder : Folder) (path : String) : String :=
  let steps := pathSteps path
  let steps := if path.startsWith "/" then steps else pathSteps folder.path ++ steps
  "/" ++ "/".intercalate (followSteps steps)

def find (folder : Folder) (path : String) : Found :=
  if path = folder.path then .folder
  else
    match folder.files.find? fun (name, _) => folder.absolute name = path with
    | some (_, content) => .file content
    | none =>
      if (pathSteps path).isPrefixOf (pathSteps folder.path) then .folder else .missing

def write (folder : Folder) (name : String) (content : FileContent) : Folder :=
  { folder with files := (name, content) :: folder.files }

end Folder
end CodeTree
