import CodeTree.Alias.Words
import CodeTree.Folder

/-! Word lists from files. A list once loaded is kept, so later changes of its file do not show. -/
namespace CodeTree.Alias

/-- Lists loaded so far, by absolute path, and the file set to be used when none is named. -/
structure Loader where
  setting : String := ""
  loaded : List (String × List String) := []

namespace Loader

def packagedName : String := "animals.txt"

/-- The path of a list: the one named, else the one set; none for the packaged list. -/
def path? (loader : Loader) (named? : Option String) : Option String :=
  match named? with
  | some path => some path
  | none => if loader.setting.isEmpty then none else some loader.setting

/-- The words of a list, with the loader after it. A failure is not kept. -/
def load (loader : Loader) (folder : Folder) (named? : Option String) :
    Except FileError (List String × Loader) :=
  match loader.path? named? with
  | none => .ok (packagedWords, loader)
  | some path =>
    let path := folder.absolute path
    match loader.loaded.lookup path with
    | some words => .ok (words, loader)
    | none => do
      let words := wordsOfText (← (folder.find path).text)
      return (words, { loader with loaded := (path, words) :: loader.loaded })

end Loader
end CodeTree.Alias
