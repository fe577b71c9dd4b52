/-!
# Directories

A directory as the files in it, with the paths that lead to them, and what reading a path gives.
Nothing is known to stand outside of the directory.
-/

namespace TypeCatalog.Inspect

/-- Why a path cannot be read. -/
inductive FileError where
  | notFound
  | permissionDenied
  | isDirectory
  /-- A file stands where the path needs a directory. -/
  | notDirectory
  /-- The path or a name in it is too long. -/
  | tooLong
  /-- The content is no text. -/
  | notText
  /-- Any other reason, in the words of the system. -/
  | other (reason : String)
  deriving DecidableEq, Repr

/-- The wording of the error. -/
def FileError.message : FileError → String
  | .notFound => "No such file or directory (os error 2)"
  | .permissionDenied => "Permission denied (os error 13)"
  | .isDirectory => "Is a directory (os error 21)"
  | .notDirectory => "Not a directory (os error 20)"
  | .tooLong => "File name too long (os error 36)"
  | .notText => "stream did not contain valid UTF-8"
  | .other reason => reason

/-- What stands at a path. -/
structure Node where
  /-- What reading it gives. -/
  content : Except FileError ByteArray
  /-- Whether it is a regular file. -/
  isFile : Bool

/-- What a path leads to. -/
inductive Entry where
  | file (content : ByteArray)
  /-- A directory, by the steps to it. -/
  | directory (steps : List (List Char))
  /-- A directory that the known one is in. -/
  | outside

/-- The files of a directory, each under its path. -/
structure Directory where
  files : List (String × ByteArray)

namespace Directory

/-- How many bytes a name may have at most. -/
def nameLimit : Nat := 255

/-- How many bytes a path has to be shorter than. -/
def pathLimit : Nat := 4096

/-- The steps of a path. -/
def stepsOf (path : String) : List (List Char) := path.toList.splitOn '/'

/-- What stands under a name in a directory. -/
def enter (d : Directory) (steps : List (List Char)) (name : List Char) :
    Except FileError Entry :=
  let here := steps ++ [name]
  match d.files.find? fun file => stepsOf file.1 == here with
  | some file => .ok (.file file.2)
  | none =>
    if d.files.any fun file => here.isPrefixOf (stepsOf file.1) then .ok (.directory here)
    else .error .notFound

/-- The directory that a directory is in. -/
def parent (steps : List (List Char)) : Entry :=
  if steps.isEmpty then .outside else .directory steps.dropLast

/-- Takes one step of a path. -/
def walkStep (d : Directory) (entry : Entry) (step : List Char) : Except FileError Entry :=
  let stays := step = [] ∨ step = ['.']
  let isLong := nameLimit < (String.ofList step).utf8ByteSize
  match entry with
  | .file _ => .error .notDirectory
  | .outside =>
    if stays ∨ step = ['.', '.'] then .ok .outside
    else if isLong then .error .tooLong
    else .error .notFound
  | .directory steps =>
    if stays then .ok (.directory steps)
    else if step = ['.', '.'] then .ok (parent steps)
    else if isLong then .error .tooLong
    else d.enter steps step

/-- What a path leads to; a path that starts with a slash starts outside of the directory. -/
def find (d : Directory) (path : String) : Except FileError Entry :=
  if path.isEmpty then .error .notFound
  else if pathLimit ≤ path.utf8ByteSize then .error .tooLong
  else
    let start := if path.toList.head? == some '/' then Entry.outside else .directory []
    (stepsOf path).foldlM d.walkStep start

/-- What stands at a path; all files are regular ones. -/
def read (d : Directory) (path : String) : Node :=
  match d.find path with
  | .ok (.file content) => ⟨.ok content, true⟩
  | .ok (.directory _) | .ok .outside => ⟨.error .isDirectory, false⟩
  | .error e => ⟨.error e, false⟩

end Directory
end TypeCatalog.Inspect
