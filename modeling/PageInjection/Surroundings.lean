import PageInjection.Disk
import PageInjection.Environment
import PageInjection.Fault
import PageInjection.Store.Database

/-!
# Surroundings

What a command needs from outside: variables, files, databases and the time.
Commands are written against `Surroundings`; a `Host` is a description of
surroundings as a value, in which every command is a function.
-/

namespace PageInjection

/-- The questions and requests a command has for its surroundings. -/
structure Surroundings (m : Type → Type) where
  environment : m Environment
  currentFolder : m String
  accountHome : m (Option String)
  look : String → m (Except DiskFault DiskEntry)
  makeFolders : String → m (Except DiskFault Unit)
  append : String → String → m (Except DiskFault Unit)
  openDatabase : String → m (Except StoreFault Database)
  keepDatabase : String → Database → m Unit
  now : m Int64

/-- Surroundings as a value. -/
structure Host where
  environment : Environment := {}
  currentFolder : String := "/"
  accountHome : Option String := none
  disk : Disk := {}
  databases : List (List String × Database) := []
  now : Int64 := 0
deriving Repr

namespace Host

/-- The names that lead to the current folder. -/
def current (host : Host) : List String :=
  Location.names host.currentFolder

/-- Change the disk, if that can be done. -/
def onDisk (change : Host → Except DiskFault Disk) : StateM Host (Except DiskFault Unit) :=
  fun host =>
    match change host with
    | .ok disk => (.ok (), { host with disk })
    | .error fault => (.error fault, host)

/-- The database in a folder; a folder without one holds the empty database. -/
def databaseAt (host : Host) (place : List String) : Database :=
  (host.databases.lookup place).getD .empty

def setDatabase (host : Host) (place : List String) (database : Database) : Host :=
  { host with databases := host.databases.filter (·.1 != place) ++ [(place, database)] }

def openDatabase (path : String) : StateM Host (Except StoreFault Database) := fun host =>
  match host.disk.follow host.current path with
  | .ok place => (.ok (host.databaseAt place), host)
  | .error fault => (.error (.io fault.message), host)

def keepDatabase (path : String) (database : Database) : StateM Host Unit := fun host =>
  match host.disk.follow host.current path with
  | .ok place => ((), host.setDatabase place database)
  | .error _ => ((), host)

def surroundings : Surroundings (StateM Host) where
  environment := do return (← get).environment
  currentFolder := do return (← get).currentFolder
  accountHome := do return (← get).accountHome
  look path := do
    let host ← get
    return host.disk.look host.current path
  makeFolders path := onDisk fun host => host.disk.makeFolders host.current path
  append path text := onDisk fun host =>
    host.disk.append host.current path (Text.encode text.toList)
  openDatabase := openDatabase
  keepDatabase := keepDatabase
  now := do return (← get).now

end Host

end PageInjection
