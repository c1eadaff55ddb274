import PageInjection.Command.Execute
import PageInjection.Settings.Load

/-!
# Sessions

A session is a place to carry out commands in: settings that were found right,
and the database of a workspace.
-/

namespace PageInjection

/-- A place to carry out commands in. -/
structure Session where
  settings : Settings
  storePath : String
  database : Database

namespace Session

variable {m : Type → Type} [Monad m] (outside : Surroundings m)

def pathOf (invocation : Invocation) (settings : Settings) : String :=
  invocation.store.getD (settings.store.resolve invocation.workspace)

/-- The settings for an invocation, when they are right. -/
def settingsFor (invocation : Invocation) : m (Except CommandFault Settings) := do
  return (← Settings.loadFor outside invocation.workspace invocation.configFile).bind
    Settings.validated

/-- Open the database at a path; its folder is made when it is missing. -/
def openStore (path : String) : m (Except CommandFault Database) := do
  match ← outside.makeFolders path with
  | .error fault => return .error (.store (.io fault.message))
  | .ok () =>
      match ← outside.openDatabase path with
      | .error fault => return .error (.store fault)
      | .ok database => return .ok database

def start (invocation : Invocation) : m (Except CommandFault Session) := do
  match ← settingsFor outside invocation with
  | .error fault => return .error fault
  | .ok settings =>
      let storePath := pathOf invocation settings
      match ← openStore outside storePath with
      | .error fault => return .error fault
      | .ok database => return .ok { settings, storePath, database }

def fileFor (command : Command) : m (Except DiskFault String) := do
  match command.source? with
  | some (.file path) => return (← outside.look path).bind DiskEntry.text
  | _ => return .ok ""

/-- What a command gets from the surroundings. -/
def settingOf (engine : Engine) (session : Session) (command : Command) : m CommandSetting := do
  let file ← fileFor outside command
  return { engine, limits := session.settings.sandbox, now := ← outside.now,
           readFile := fun _ => file }

/-- Carry out a command with what it needs, and keep what it changed. -/
def perform (setting : CommandSetting) (session : Session) (command : Command) :
    m (Except CommandFault String) := do
  let (answer, database) := command.outcome setting session.database
  outside.keepDatabase session.storePath database
  return answer

def execute (engine : Engine) (session : Session) (command : Command) :
    m (Except CommandFault String) := do
  perform outside (← settingOf outside engine session command) session command

end Session

end PageInjection
