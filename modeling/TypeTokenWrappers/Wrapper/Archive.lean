import TypeTokenWrappers.Files.Host
import TypeTokenWrappers.Wrapper.Selection
import TypeTokenWrappers.Zip.Archive

/-! # Scanning an archive

The entries of an archive are gone through in order. Every entry has to be of a
kind that can be read; of those only candidates are read. -/

namespace TypeTokenWrappers

/-- Whether an entry holds a class whose methods may be wrapped: a class file
in the root namespace, neither nested nor internal. -/
def isCandidate (rules : Config.Scan) (entryName : String) : Bool :=
  let name := entryName.toList
  ".class".toList.isSuffixOf name && !name.contains '$' &&
    !Pieces.occursIn "/internal/".toList name && rules.rootNamespace.toList.isPrefixOf name

def recordOfEntry (rules : Config.Scan) (entry : Zip.Entry) :
    Except Error (Option ClassRecord) :=
  match entry.readable? with
  | none => .error (.archive "the entry cannot be opened")
  | some data =>
    if !isCandidate rules entry.name then .ok none
    else match entry.content? data with
      | some bytes => .ok (some ⟨entry.name, bytes⟩)
      | none => .error (.io (.other "the data of the entry is corrupt"))

def recordsOfEntries (rules : Config.Scan) (entries : List Zip.Entry) :
    Except Error (List ClassRecord) := do
  let records ← entries.mapM (recordOfEntry rules)
  return records.filterMap id

def recordsOfArchive (rules : Config.Scan) (file : List UInt8) :
    Except Error (List ClassRecord) :=
  match Zip.open? file with
  | some entries => recordsOfEntries rules entries
  | none => .error (.archive "the file is not a readable archive")

def wrappersOfRecords (rules : Config.Scan) (records : List ClassRecord) :
    Except Error (List Wrapper) := do
  let found ← records.mapM (Wrapper.ofRecord rules)
  return found.flatten

variable {m : Type → Type} [Monad m] [Host m]

/-- Reads the candidates of an archive. A directory can be opened, but is no archive. -/
def selectClasses (rules : Config.Scan) (archive : String) : Program m (List ClassRecord) := do
  match ← (Host.fileContent archive : m _) with
  | .ok file => recordsOfArchive rules file
  | .error (.os .isDirectory) => throw (.archive "the path is a directory")
  | .error cause => throw (.io cause)

def wrappersOfArchive (rules : Config.Scan) (archive : String) : Program m (List Wrapper) := do
  let records ← selectClasses rules archive
  wrappersOfRecords rules records

end TypeTokenWrappers
