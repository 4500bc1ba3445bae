/-!
# Paths

Objects are named by absolute paths. The root is a single slash; any other object has a
parent, which its path names up to the last slash.
-/

namespace Concord.Path

/-- The path of the root. -/
def root : String :=
  "/"

/-- The characters in front of the last slash, given in reverse. -/
def beforeLastSlash (reversed : List Char) : List Char :=
  ((reversed.dropWhile fun character => character ≠ '/').drop 1).reverse

/-- The path of the parent. Paths that do not start at the root or that end in a slash, the
root among them, have none. -/
def parent? (path : String) : Option String :=
  let characters := path.toList
  if characters.head? ≠ some '/' ∨ characters.getLast? = some '/' then none
  else
    match beforeLastSlash characters.reverse with
    | [] => some root
    | front => some (String.ofList front)

end Concord.Path
