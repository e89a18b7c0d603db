import TypeTokenWrappers.Files.Path

/-! # File trees

A tree of named files. The order in which a directory lists its entries carries
no meaning; whatever depends on an order sorts by name. Names are compared
character by character, which for UTF-8 is the order of their bytes. -/

namespace TypeTokenWrappers

inductive FileTree (α : Type) where
  | file (content : α)
  | directory (entries : List (String × FileTree α))

namespace FileTree

def empty : FileTree α := .directory []

def isDirectory : FileTree α → Bool
  | .directory _ => true
  | .file _ => false

def child? (name : String) : FileTree α → Option (FileTree α)
  | .directory entries => entries.lookup name
  | .file _ => none

def find? (tree : FileTree α) : (place : List String) → Option (FileTree α)
  | [] => some tree
  | name :: place => (tree.child? name).bind fun child => child.find? place

def alterEntries (name : String) (change : Option (FileTree α) → Option (FileTree α)) :
    List (String × FileTree α) → List (String × FileTree α)
  | [] => ((change none).map fun tree => (name, tree)).toList
  | (other, tree) :: others =>
    if other = name then ((change (some tree)).map fun tree => (name, tree)).toList ++ others
    else (other, tree) :: alterEntries name change others

/-- Changes what stands at a place below the root, if the way to it exists. -/
def alter (change : Option (FileTree α) → Option (FileTree α)) :
    (place : List String) → FileTree α → FileTree α
  | [], tree => tree
  | [name], .directory entries => .directory (alterEntries name change entries)
  | name :: place, .directory entries =>
    .directory (alterEntries name (Option.map (alter change place)) entries)
  | _, .file content => .file content

def put (tree : FileTree α) (place : List String) (item : FileTree α) : FileTree α :=
  tree.alter (fun _ => some item) place

/-! The files below a directory, with the paths by which they are reached from
it. Directories and files are taken together in the order of their names, and a
directory is gone through before the next name is taken. -/

def byName (found : List (String × β)) : List (String × β) :=
  found.mergeSort fun first second => first.1 ≤ second.1

def inNameOrder (found : List (String × List String)) : List String :=
  (byName found).flatMap (·.2)

mutual
def filePaths (path : String) : FileTree α → List String
  | .file _ => [path]
  | .directory entries => inNameOrder (entryPaths path entries)

def entryPaths (path : String) : List (String × FileTree α) → List (String × List String)
  | [] => []
  | (name, tree) :: others =>
    (name, filePaths (Path.join path name) tree) :: entryPaths path others
end

def archives (path : String) (tree : FileTree α) : List String :=
  (tree.filePaths path).filter fun file => Path.extension? file == some "jar"

end FileTree

end TypeTokenWrappers
