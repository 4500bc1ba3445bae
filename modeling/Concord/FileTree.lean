/-!
# Files

A file tree is what reading by path sees of a file system. A path is followed name by name,
from the root if it starts with a slash and from the working directory otherwise. Only
directories can be followed further, and only files can be read.
-/

namespace Concord

/-- Why a file cannot be read. -/
inductive FileFailure where
  | missing
  | notADirectory
  | isADirectory
  | nameTooLong
  | notText
  /-- Any other reason, in words. -/
  | other (reason : String)
deriving DecidableEq, Inhabited

/-- What is told about a file that cannot be read. -/
def FileFailure.message : FileFailure → String
  | .missing => "No such file or directory (os error 2)"
  | .notADirectory => "Not a directory (os error 20)"
  | .isADirectory => "Is a directory (os error 21)"
  | .nameTooLong => "File name too long (os error 36)"
  | .notText => "stream did not contain valid UTF-8"
  | .other reason => reason

/-- A file or a directory. -/
inductive FileTree where
  /-- A file, which has no content if its bytes are no text. -/
  | file (content : Option String)
  | directory (entries : List (String × FileTree))
deriving Inhabited

namespace FileTree

/-- The characters in front of the first slash, and those between the others. -/
def splitSlashes : List Char → List Char × List (List Char)
  | [] => ([], [])
  | character :: rest =>
    let (name, names) := splitSlashes rest
    if character = '/' then ([], name :: names) else (character :: name, names)

/-- The names in a path, some of them empty where slashes meet or stand at an end. -/
def namesOf (path : String) : List String :=
  let (name, names) := splitSlashes path.toList
  (name :: names).map String.ofList

/-- Follow names from a place. The directories around it are given from the innermost one;
the root is its own parent. -/
def follow : (around : List FileTree) → FileTree → List String → Except FileFailure FileTree
  | _, place, [] => .ok place
  | _, .file _, _ :: _ => .error .notADirectory
  | around, .directory entries, name :: rest =>
    if name = "" ∨ name = "." then follow around (.directory entries) rest
    else if name = ".." then
      match around with
      | [] => follow [] (.directory entries) rest
      | parent :: around => follow around parent rest
    else if 255 < name.utf8ByteSize then .error .nameTooLong
    else
      match entries.lookup name with
      | none => .error .missing
      | some inner => follow (.directory entries :: around) inner rest

/-- The text of the file at a path, where the working directory is given by its names. -/
def read (root : FileTree) (workingDirectory : List String) (path : String) :
    Except FileFailure String :=
  let start := if path.startsWith "/" then [] else workingDirectory
  if path = "" then .error .missing
  else if 4096 ≤ path.utf8ByteSize then .error .nameTooLong
  else
    match follow [] root (start ++ namesOf path) with
    | .error cause => .error cause
    | .ok (.directory _) => .error .isADirectory
    | .ok (.file none) => .error .notText
    | .ok (.file (some content)) => .ok content

end FileTree

end Concord
