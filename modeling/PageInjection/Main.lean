import PageInjection.Account
import PageInjection.Program
import PageInjection.Store.Image
import Std.Time.DateTime.Timestamp

/-!
# The command line

The program in the surroundings it is started in: the files, the variables and
the clock of the machine.  A database is one file in its folder.
-/

namespace PageInjection.Live

/-- What a failure of the machine means for a file or a folder. -/
def faultOf : IO.Error → DiskFault
  | .noFileOrDirectory _ _ _ => .missing
  | .alreadyExists _ _ _ => .taken
  | .inappropriateType _ 20 _ => .notFolder
  | .inappropriateType _ 21 _ => .isFolder
  | .inappropriateType _ code reason => coded code reason
  | .permissionDenied _ code reason => coded code reason
  | .invalidArgument _ code reason => coded code reason
  | .resourceExhausted _ code reason => coded code reason
  | .noSuchThing _ code reason => coded code reason
  | .resourceBusy code reason => coded code reason
  | .otherError code reason => coded code reason
  | fault => .other (toString fault)
where
  coded (code : UInt32) (reason : String) : DiskFault :=
    .other (reason ++ " (os error " ++ toString code ++ ")")

/-- Do something with files, and take its failure as a fault. -/
def attempt (act : IO α) : IO (Except DiskFault α) := do
  try
    return .ok (← act)
  catch fault =>
    return .error (faultOf fault)

/-- The text of a file, none when it cannot be read. -/
def textOf? (path : String) : IO (Option String) := do
  match ← attempt (IO.FS.readFile path) with
  | .ok text => return some text
  | .error _ => return none

/-- The variables the program was started with. -/
def environment : IO Environment := do
  match ← attempt (IO.FS.readBinFile "/proc/self/environ") with
  | .ok bytes =>
      let entries := Text.splitOn '\x00' (bytes.toList.map fun byte => Char.ofNat byte.toNat)
      return .ofEntries (entries.filterMap fun entry =>
        (Text.decode (entry.map fun c => UInt8.ofNat c.toNat)).toOption)
  | .error _ => return {}

def accountHome : IO (Option String) := do
  let status ← textOf? "/proc/self/status"
  let accounts ← textOf? "/etc/passwd"
  return do Account.home? (← Account.owner? (← status)) (← accounts)

def look (path : String) : IO (Except DiskFault DiskEntry) := do
  attempt do
    let whole := (← IO.currentDir) / path
    let about ← whole.metadata
    match about.type with
    | .dir => return .folder
    | _ => return .file (← IO.FS.readBinFile whole).toList

/-- Make the folders of a path that are missing. -/
def makeFolders (path : String) : IO (Except DiskFault Unit) := do
  if path.isEmpty then return .ok ()
  attempt (IO.FS.createDirAll path)

def append (path text : String) : IO (Except DiskFault Unit) := do
  attempt do
    let handle ← IO.FS.Handle.mk path .append
    handle.putStr text

def databaseFile (folder : String) : String :=
  Location.join folder "fragments"

/-- The database in a folder, which is empty when there is no file yet. -/
def openDatabase (folder : String) : IO (Except StoreFault Database) := do
  match ← attempt (IO.FS.readBinFile (databaseFile folder)) with
  | .ok bytes => return Database.ofBytes bytes.toList
  | .error .missing => return .ok .empty
  | .error fault => return .error (.io fault.message)

def keepDatabase (folder : String) (database : Database) : IO Unit :=
  IO.FS.writeBinFile (databaseFile folder) ⟨database.toBytes.toArray⟩

/-- The milliseconds since the beginning of 1970. -/
def now : IO Int64 := do
  return Int64.ofInt (← Std.Time.Timestamp.now).toMillisecondsSinceUnixEpoch.val

/-- The surroundings the program is started in. -/
def surroundings : Surroundings IO where
  environment := environment
  currentFolder := do return (← IO.currentDir).toString
  accountHome := accountHome
  look := look
  makeFolders := makeFolders
  append := append
  openDatabase := openDatabase
  keepDatabase := keepDatabase
  now := now

end PageInjection.Live

def main (words : List String) : IO UInt32 := do
  let outcome ← PageInjection.Program.run PageInjection.Live.surroundings .standard words
  IO.print outcome.stdout
  IO.eprint outcome.stderr
  return UInt32.ofNat outcome.exit
