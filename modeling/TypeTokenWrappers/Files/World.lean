import TypeTokenWrappers.Files.Host

/-! # Modelled hosts

A world is a file tree, a working directory in it and a list of variables. It
answers the questions of a host the way a Unix system does. Outside of it are
permissions (everything there can be read and written), special files and links
(there are only files and directories), and names that are not UTF-8. -/

namespace TypeTokenWrappers

structure World where
  root : FileTree (List UInt8)
  directory : List String
  environment : List (String × String)

namespace World

def maximalNameLength : Nat := 255

/-- No path is as long as this, in bytes. -/
def pathLimit : Nat := 4096

/-- Goes on from a place by one piece of a path. Only directories can be left. -/
def step (root : FileTree (List UInt8)) (place : List String) (piece : List Char) :
    Except OsError (List String) :=
  match root.find? place with
  | none => .error .notFound
  | some (.file _) => .error .notDirectory
  | some (.directory _) =>
    if !Path.significant piece then .ok place
    else if piece = ['.', '.'] then .ok place.dropLast
    else if Utf8.byteLength piece > maximalNameLength then .error .nameTooLong
    else .ok (place ++ [String.ofList piece])

/-- Goes by all pieces. The place reached need not hold anything. -/
def walk (root : FileTree (List UInt8)) (place : List String) (pieces : List (List Char)) :
    Except OsError (List String) :=
  pieces.foldlM (step root) place

def start (world : World) (path : String) : List String :=
  if Path.isAbsolute path then [] else world.directory

def checkPath (path : String) : Except IoError (List Char) :=
  if path.toList.contains '\x00' then
    .error (.other "file name contained an unexpected NUL byte")
  else if path = "" then .error (.os .notFound)
  else if Utf8.byteLength path.toList ≥ pathLimit then .error (.os .nameTooLong)
  else .ok path.toList

def find (world : World) (path : String) : Except IoError (FileTree (List UInt8)) := do
  let text ← checkPath path
  let place ← (walk world.root (world.start path) (Pieces.cut '/' text)).mapError .os
  match world.root.find? place with
  | some item => .ok item
  | none => .error (.os .notFound)

inductive Target where
  /-- A name in a directory, however long; `slash` tells that a separator follows it. -/
  | name (place : List String) (name : String) (slash : Bool)
  /-- The root, or a directory named by `.` or `..`. -/
  | existing

def target (world : World) (path : String) : Except IoError Target := do
  let text ← checkPath path
  let reversed := (Pieces.cut '/' text).reverse
  match reversed.dropWhile (· = []) with
  | [] => return .existing
  | last :: front =>
    let place ← (walk world.root (world.start path) front.reverse).mapError .os
    let _ ← (step world.root place []).mapError .os
    if last = ['.'] || last = ['.', '.'] then return .existing
    else return .name place (String.ofList last) (reversed.head? == some [])

def lookUp (world : World) (place : List String) (name : String) :
    Except IoError (Option (FileTree (List UInt8))) :=
  if Utf8.byteLength name.toList > maximalNameLength then .error (.os .nameTooLong)
  else .ok (world.root.find? (place ++ [name]))

def fileContent (world : World) (path : String) : Except IoError (List UInt8) := do
  match ← world.find path with
  | .file content => return content
  | .directory _ => throw (.os .isDirectory)

/-- Only files have a size: what a directory takes up is the file system's affair. -/
def fileSize (world : World) (path : String) : Except IoError Nat :=
  (world.fileContent path).map List.length

def kind? (world : World) (path : String) : Option FileKind :=
  match world.find path with
  | .ok (.file _) => some .file
  | .ok (.directory _) => some .directory
  | .error _ => none

/-! Leaving the contents out. Each directory is looked into by its path, which
grows on the way down and may not become too long. The entries are gone through
in the order of their names, so that the first directory that cannot be looked
into is the same however they are listed. -/

def outlineEntry (entry : String × Except IoError (FileTree Unit)) :
    Except IoError (String × FileTree Unit) :=
  entry.2.map fun outlined => (entry.1, outlined)

mutual
def outline (path : String) : FileTree α → Except IoError (FileTree Unit)
  | .file _ => .ok (.file ())
  | .directory entries => do
    if Utf8.byteLength path.toList ≥ pathLimit then throw (.onTheWay path .nameTooLong)
    let outlined ← (FileTree.byName (outlineEntries path entries)).mapM outlineEntry
    return .directory outlined

def outlineEntries (path : String) :
    List (String × FileTree α) → List (String × Except IoError (FileTree Unit))
  | [] => []
  | (name, tree) :: others =>
    (name, outline (Path.join path name) tree) :: outlineEntries path others
end

def readTree (world : World) (path : String) : Except IoError (FileTree Unit) := do
  outline path (← world.find path)

def makeDirectory (world : World) (path : String) : Except IoError World := do
  match ← world.target path with
  | .existing => throw (.os .exists)
  | .name place name _ =>
    match ← world.lookUp place name with
    | some _ => throw (.os .exists)
    | none => return { world with root := world.root.put (place ++ [name]) .empty }

def changeFile (world : World) (path : String) (change : List UInt8 → List UInt8) :
    Except IoError World := do
  match ← world.target path with
  | .existing => throw (.os .isDirectory)
  | .name place name slash =>
    if slash then throw (.os .isDirectory)
    match ← world.lookUp place name with
    | some (.directory _) => throw (.os .isDirectory)
    | some (.file content) =>
      return { world with root := world.root.put (place ++ [name]) (.file (change content)) }
    | none => return { world with root := world.root.put (place ++ [name]) (.file (change [])) }

def workingDirectory (world : World) : String :=
  "/" ++ "/".intercalate world.directory

def attempt (change : World → Except IoError World) : StateM World (Except IoError Unit) := do
  match change (← get) with
  | .ok world =>
    set world
    return .ok ()
  | .error cause => return .error cause

instance : Host (StateM World) where
  fileContent path := return (← get).fileContent path
  fileSize path := return (← get).fileSize path
  kind? path := return (← get).kind? path
  readTree path := return (← get).readTree path
  makeDirectory path := attempt (makeDirectory · path)
  createFile path := attempt (changeFile · path fun _ => [])
  appendFile path bytes := attempt (changeFile · path (· ++ bytes))
  workingDirectory := return .ok (← get).workingDirectory
  environmentValue name := return Environment.ofList (← get).environment name
  setVariable name value :=
    modify fun world => { world with environment := (name, value) :: world.environment }

end World

end TypeTokenWrappers
