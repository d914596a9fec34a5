/-
# Resource.FileTree — a file system given by its files

A `FileTree` lists the directories and files that exist, each by the names that
lead to it from the top. A path of the file system is followed name by name: a
dot stays, two dots go back, and only the last name may be that of a file.
-/
import VirtualHosting.Resource.DocumentRoot

namespace VirtualHosting

set_option autoImplicit false

/-- The directories and files that exist, and the directory relative paths start
from. Parents of what is listed exist too. -/
structure FileTree where
  directories : List (List String) := []
  files : List (List String) := []
  current : List String := []

namespace FileTree

/-- Whether the place is the top, is listed, or leads to something listed. -/
def isDirectory (tree : FileTree) (place : List String) : Bool :=
  place.isEmpty
    || tree.current.take place.length == place
    || tree.directories.any (fun d => d.take place.length == place)
    || tree.files.any (fun f => f.length > place.length && f.take place.length == place)

def isFile (tree : FileTree) (place : List String) : Bool :=
  tree.files.contains place

/-- Follows names from a directory. -/
def follow (tree : FileTree) (place : List String) : List String → ResourceKind
  | [] => .directory
  | name :: names =>
    if name = "." || name = "" then tree.follow place names
    else if name = ".." then tree.follow place.dropLast names
    else if tree.isDirectory (place ++ [name]) then tree.follow (place ++ [name]) names
    else if names.isEmpty && tree.isFile (place ++ [name]) then .file
    else .missing

/-- What a path of the file system names. -/
def kind (tree : FileTree) (path : String) : ResourceKind :=
  if path = "" then .missing
  else tree.follow (if Text.startsWith "/" path then [] else tree.current)
    (DocumentRoot.segments path)

/-- The tree of these paths, each taken below `top`. -/
def ofPaths (top : List String) (directories files : List String) : FileTree where
  directories := top :: directories.map fun d => top ++ names d
  files := files.map fun f => top ++ names f
where
  names (path : String) : List String :=
    (DocumentRoot.segments path).filter DocumentRoot.isNamed

end FileTree

end VirtualHosting
