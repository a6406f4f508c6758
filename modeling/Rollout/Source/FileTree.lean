import Rollout.Source.Path
import Rollout.Text.Shown

/-
Trees of files and how a path is followed through one. Directories are not listed: the
working directory and its parents exist, and so does every directory with a file in it.
There are no links, so each place has one path.
-/
namespace Rollout
namespace Source

/-- The contents of a file, byte by byte. -/
abbrev Bytes := List Nat

/-- Why a file cannot be read. -/
inductive ReadFault where
  /-- The path holds a character that ends texts for the system. -/
  | badPath (path : String)
  | notFound (path : String)
  | notDirectory (path : String)
  | nameTooLong (path : String)
  | notPermitted (path : String)
  | isDirectory
  deriving DecidableEq

namespace ReadFault

/-- The code systems have for it, or that of a bad argument. -/
def code : ReadFault → String
  | .badPath _ => "ERR_INVALID_ARG_VALUE"
  | .notFound _ => "ENOENT"
  | .notDirectory _ => "ENOTDIR"
  | .nameTooLong _ => "ENAMETOOLONG"
  | .notPermitted _ => "EACCES"
  | .isDirectory => "EISDIR"

def description : ReadFault → String
  | .badPath path =>
    "The argument 'path' must be a string, Uint8Array, or URL without null bytes. Received "
      ++ Text.shown path
  | .notFound path => "no such file or directory, open '" ++ path ++ "'"
  | .notDirectory path => "not a directory, open '" ++ path ++ "'"
  | .nameTooLong path => "name too long, open '" ++ path ++ "'"
  | .notPermitted path => "permission denied, open '" ++ path ++ "'"
  | .isDirectory => "illegal operation on a directory, read"

/-- The message, which starts with the code of the system. -/
def message : ReadFault → String
  | .badPath path => (ReadFault.badPath path).description
  | f => f.code ++ ": " ++ f.description

end ReadFault

/-- The longest path, in bytes. -/
def longestPath : Nat := 4095

/-- What is wrong with a path by itself, before it is followed. -/
def pathFault? (path : String) : Option ReadFault :=
  if path.toList.any (·.toNat = 0) then some (.badPath path)
  else if longestPath < path.utf8ByteSize then some (.nameTooLong path)
  else none

/-- Files under the parts of their absolute paths, and the directory that relative paths
start from. -/
structure FileTree where
  files : List (List String × Bytes)
  workingDirectory : List String

namespace FileTree

/-- The tree of files given by paths relative to the working directory. -/
def ofRelative (workingDirectory : List String) (files : List (String × Bytes)) : FileTree where
  files := files.map fun (path, bytes) =>
    (workingDirectory ++ (pathParts path).filter (fun part => !part.isEmpty && part != "."), bytes)
  workingDirectory := workingDirectory

def file? (t : FileTree) (place : List String) : Option Bytes := t.files.lookup place

/-- Whether a place is a directory. -/
def isDirectory (t : FileTree) (place : List String) : Bool :=
  place.isPrefixOf t.workingDirectory
    || t.files.any fun (file, _) => place.isPrefixOf file && place != file

/-- The longest name a directory holds, in bytes. -/
def longestName : Nat := 255

/-- What a path leads to: its place, and the bytes if it is a file. -/
structure Found where
  place : List String
  bytes : Option Bytes

/-- Follows the parts of a path from a place. A file ends the path, and the topmost
directory is its own parent. -/
def follow (t : FileTree) (path : String) (place : List String) :
    List String → Except ReadFault Found
  | [] => .ok ⟨place, none⟩
  | part :: rest =>
    if part.isEmpty || part = "." then follow t path place rest
    else if part = ".." then follow t path place.dropLast rest
    else if longestName < part.utf8ByteSize then .error (.nameTooLong path)
    else
      let next := place ++ [part]
      match t.file? next with
      | some bytes => if rest.isEmpty then .ok ⟨next, some bytes⟩ else .error (.notDirectory path)
      | none => if t.isDirectory next then follow t path next rest else .error (.notFound path)

def find (t : FileTree) (path : String) : Except ReadFault Found :=
  if path.isEmpty then .error (.notFound path)
  else follow t path (if isAbsolute path then [] else t.workingDirectory) (pathParts path)

/-- The bytes of the file a path leads to. -/
def read (t : FileTree) (path : String) : Except ReadFault Bytes :=
  match pathFault? path with
  | some f => .error f
  | none =>
    match t.find path with
    | .error f => .error f
    | .ok ⟨_, some bytes⟩ => .ok bytes
    | .ok ⟨_, none⟩ => .error .isDirectory

/-- The parts of a path from the top of the tree on. A step to the parent takes the part
before it away, whatever that leads to. -/
def straight (t : FileTree) (path : String) : List String :=
  let start := if isAbsolute path then [] else t.workingDirectory
  (pathParts path).foldl
    (fun place part =>
      if part.isEmpty || part = "." then place
      else if part = ".." then place.dropLast
      else place ++ [part])
    start

/-- The one path of the place a path leads to, if there is such a place. -/
def resolve? (t : FileTree) (path : String) : Option String :=
  let whole := "/" ++ String.intercalate "/" (t.straight path)
  match t.find whole with
  | .error _ => none
  | .ok found => some ("/" ++ String.intercalate "/" found.place)

end FileTree
end Source
end Rollout
