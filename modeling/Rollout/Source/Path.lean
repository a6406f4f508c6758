import Rollout.Text.LowerCase

/-
File paths: texts whose parts stand between slashes. The name of a path is its last part
that is not empty, and its extension is the end of that name from the last dot on.
-/
namespace Rollout
namespace Source

/-- Splits at every separator. The parts may be empty, and there is at least one. -/
def splitAt (isSeparator : Char → Bool) : List Char → List (List Char)
  | [] => [[]]
  | c :: rest =>
    if isSeparator c then [] :: splitAt isSeparator rest
    else
      match splitAt isSeparator rest with
      | [] => [[c]]
      | part :: parts => (c :: part) :: parts

/-- The parts of a path. -/
def pathParts (path : String) : List String := (splitAt (· = '/') path.toList).map String.ofList

def isAbsolute (path : String) : Bool := path.toList.head? = some '/'

/-- The last part of a path that is not empty; slashes at the end do not count. -/
def fileName (path : String) : String :=
  ((pathParts path).reverse.find? fun part => !part.isEmpty).getD ""

/-- The extension of a name, with its dot. A dot in front of the whole name starts none,
and the name of the parent directory has none. -/
def extensionChars (name : List Char) : List Char :=
  let tail := (name.reverse.takeWhile (· != '.')).reverse
  if name = ['.', '.'] || name.length ≤ tail.length + 1 then [] else '.' :: tail

/-- The extension of a path in lower case. -/
def fileExtension (path : String) : String :=
  Text.lowerCase (String.ofList (extensionChars (fileName path).toList))

end Source
end Rollout
