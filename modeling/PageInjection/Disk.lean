import PageInjection.Location
import PageInjection.Text.Utf8

/-!
# Files and folders

A disk holds files and folders, each under the names that lead to it from the
root.  Paths are followed name by name; everything but the last name must be a
folder.  There are no links, so each file has a single name, and no rights that
would keep anyone from reading or writing.
-/

namespace PageInjection

/-- Why a file or a folder cannot be used. -/
inductive DiskFault where
  | missing
  | taken
  | notFolder
  | isFolder
  | notText
  | other (reason : String)
deriving DecidableEq, Repr

def DiskFault.message : DiskFault → String
  | .missing => "No such file or directory (os error 2)"
  | .taken => "File exists (os error 17)"
  | .notFolder => "Not a directory (os error 20)"
  | .isFolder => "Is a directory (os error 21)"
  | .notText => "stream did not contain valid UTF-8"
  | .other reason => reason

/-- What a path leads to. -/
inductive DiskEntry where
  | folder
  | file (bytes : List UInt8)
deriving DecidableEq, Repr

def DiskEntry.text : DiskEntry → Except DiskFault String
  | .folder => .error .isFolder
  | .file bytes =>
      match Text.decode bytes with
      | .ok text => .ok (String.ofList text)
      | .error _ => .error .notText

/-- Files and folders under the names that lead to them. -/
structure Disk where
  entries : List (List String × DiskEntry) := []
deriving DecidableEq, Repr

namespace Disk

/-- What stands under names; the root is a folder. -/
def at? (disk : Disk) (place : List String) : Option DiskEntry :=
  if place.isEmpty then some .folder else disk.entries.lookup place

def set (disk : Disk) (place : List String) (entry : DiskEntry) : Disk :=
  ⟨disk.entries.filter (·.1 != place) ++ [(place, entry)]⟩

def step (disk : Disk) (place : List String) (name : String) : Except DiskFault (List String) :=
  match disk.at? place with
  | some .folder => .ok (if name = ".." then place.dropLast else place ++ [name])
  | some (.file _) => .error .notFolder
  | none => .error .missing

def start (current : List String) (path : String) : List String :=
  if Location.isAbsolute path then [] else current

def namesFolder (path : String) : Bool :=
  path.endsWith "/" || path.endsWith "/." || path == "."

/-- The place a path leads to; what is there may still be missing. -/
def follow (disk : Disk) (current : List String) (path : String) :
    Except DiskFault (List String) := do
  if path.isEmpty then throw .missing
  let place ← (Location.names path).foldlM (disk.step ·) (start current path)
  match disk.at? place, namesFolder path with
  | some (.file _), true => throw .notFolder
  | _, _ => return place

def look (disk : Disk) (current : List String) (path : String) : Except DiskFault DiskEntry := do
  match disk.at? (← disk.follow current path) with
  | some entry => return entry
  | none => throw .missing

def fillFolder (disk : Disk) (place : List String) : Disk :=
  match disk.at? place with
  | some _ => disk
  | none => disk.set place .folder

/-- Make all folders of a path that are missing. -/
def makeFolders (disk : Disk) (current : List String) (path : String) : Except DiskFault Disk := do
  let (disk, place) ← (Location.names path).foldlM
    (fun ((disk, place) : Disk × List String) name => do
      let place ← disk.step place name
      return (disk.fillFolder place, place))
    (disk, start current path)
  match disk.at? place with
  | some (.file _) => throw .taken
  | _ => return disk

/-- Write to the end of a file, which need not be there yet. -/
def append (disk : Disk) (current : List String) (path : String) (bytes : List UInt8) :
    Except DiskFault Disk := do
  let place ← disk.follow current path
  match disk.at? place with
  | some .folder => throw .isFolder
  | some (.file old) => return disk.set place (.file (old ++ bytes))
  | none =>
      if namesFolder path then throw .isFolder
      else return disk.set place (.file bytes)

end Disk

end PageInjection
