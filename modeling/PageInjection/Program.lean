import PageInjection.CommandLine
import PageInjection.Logging.Line
import PageInjection.Logging.Setup
import PageInjection.Logging.Trace
import PageInjection.Session

/-!
# The program

A run of the program reads its command line, opens the log, opens a session and
carries out one command.  It leaves two texts and an exit code; answers go to the
standard output, failures to the standard error output.
-/

namespace PageInjection

/-- What a run leaves: its exit code and what it wrote to its two outputs. -/
structure Outcome where
  exit : Nat := 0
  stdout : String := ""
  stderr : String := ""
deriving DecidableEq, Repr

namespace Outcome

/-- One part of a run and then another, which decides about the exit code. -/
def append (first second : Outcome) : Outcome :=
  ⟨second.exit, first.stdout ++ second.stdout, first.stderr ++ second.stderr⟩

instance : Append Outcome := ⟨append⟩

/-- A line of failure, and its exit code. -/
def failure (exit : Nat) (line : String) : Outcome :=
  { exit, stderr := line ++ "\n" }

def ofAnswer : Except CommandFault String → Outcome
  | .ok answer => { stdout := if answer.isEmpty then "" else answer ++ "\n" }
  | .error fault => failure 1 fault.report

/-- The end of a run whose command line is not carried out. -/
def ofUsage : UsageFault → Outcome
  | .help => { stdout := Invocation.about ++ "\n" }
  | .helpForMissing about => failure 2 about
  | fault => failure 2 fault.message

end Outcome

/-- A log that is open. -/
structure OpenLog where
  plan : LogPlan
  file : Option String
deriving DecidableEq, Repr

namespace OpenLog

def line (log : OpenLog) (now : Int64) (event : LogEvent) : String :=
  let time := (Timestamp.text? now.toInt).getD ""
  match log.plan.format with
  | .text => LogLine.plain log.plan.colored time event ++ "\n"
  | .json => (LogLine.toJson time event).compact ++ "\n"

def shown (log : OpenLog) (line : String) : Outcome :=
  let targets := log.plan.targets
  { stdout := if targets.stdout then line else "", stderr := if targets.stderr then line else "" }

end OpenLog

namespace Invocation

/-- The settings of the log with what the command line says about it. -/
def adjust (invocation : Invocation) (settings : LoggingSettings) : LoggingSettings :=
  let settings :=
    if invocation.isQuiet then { settings with enabled := false } else settings
  let settings :=
    if invocation.isVerbose then
      { settings with
        level := "debug"
        output := if settings.output = "file" then "file+stderr" else settings.output }
    else settings
  { settings with
    level := invocation.logLevel.getD settings.level
    format := invocation.logFormat.getD settings.format
    output := invocation.logOutput.getD settings.output
    file := invocation.logFile <|> settings.file }

end Invocation

namespace Program

variable {m : Type → Type} [Monad m] (outside : Surroundings m)

/-- The settings of the log for an invocation; settings that cannot be loaded
count as the built-in ones. -/
def loggingFor (invocation : Invocation) : m LoggingSettings := do
  match ← Settings.loadFor outside invocation.workspace invocation.configFile with
  | .ok settings => return invocation.adjust settings.logging
  | .error _ => return invocation.adjust {}

/-- The log file, which is made when it is missing. -/
def openFile (settings : LoggingSettings) : m (Except CommandFault String) := do
  let standing := LogPlan.standingFile? (← outside.environment) (← outside.accountHome)
  match settings.file <|> standing with
  | none => return .error (.configuration "No log file path could be determined")
  | some path =>
      match ← outside.makeFolders ((Location.parent? path).getD "") with
      | .error fault =>
          return .error (.configuration ("Failed to create log directory: " ++ fault.message))
      | .ok () =>
          match ← outside.append path "" with
          | .error fault => return .error (.configuration
              ("Failed to open log file " ++ Text.quoted path ++ ": " ++ fault.message))
          | .ok () => return .ok path

/-- Open the log, if there is to be one. -/
def openLog (settings : LoggingSettings) : m (Except CommandFault (Option OpenLog)) := do
  match LogPlan.make settings (.ofEnvironment (← outside.environment)) with
  | .error fault => return .error fault
  | .ok none => return .ok none
  | .ok (some plan) =>
      if plan.targets.file then
        return (← openFile outside settings).map fun file => some { plan, file := some file }
      else return .ok (some { plan, file := none })

def writeAll (log : OpenLog) : List LogEvent → m Outcome
  | [] => return {}
  | event :: events => do
      match log.plan.filter.pass? event with
      | none => writeAll log events
      | some event =>
          let line := log.line (← outside.now) event
          if let some file := log.file then
            let _ ← outside.append file line
          return log.shown line ++ (← writeAll log events)

def note (log : Option OpenLog) (events : Unit → List LogEvent) : m Outcome :=
  match log with
  | none => return {}
  | some log => writeAll outside log (events ())

/-- The event of a global file of settings that is not there; nobody looks for it
when the operator names a file. -/
def settingsEvents (invocation : Invocation) : m (List LogEvent) := do
  match invocation.configFile, ← Settings.globalFile? outside with
  | none, some (path, false) =>
      return [{ target := "codeweave::config::sources::global_file", level := .debug
                message := "No global configuration file",
                fields := [⟨"config_path", .shown path⟩] }]
  | _, _ => return []

def startEvent : LogEvent :=
  { target := "codeweave", level := .info, message := "Codeweave CLI starting" }

/-- The event of a session that cannot be opened. -/
def failureEvent (fault : CommandFault) : LogEvent :=
  { target := "codeweave", level := .error
    message := "Error initializing fragment store: " ++ fault.message }

def openedEvents (path : String) : List LogEvent :=
  [{ target := "codeweave::cli::route", level := .info, message := "Fragment store opened"
     fields := [⟨"store", .shown path⟩] },
    { target := "codeweave", level := .info, message := "CLI context initialized"
      fields := [⟨"store", .shown path⟩] }]

/-- Open a session and carry out its command. -/
def carryOut (engine : Engine) (log : Option OpenLog) (invocation : Invocation) : m Outcome := do
  let events ← settingsEvents outside invocation
  let before ← note outside log fun _ => startEvent :: events
  match ← Session.start outside invocation with
  | .error fault =>
      let failed ← note outside log fun _ => [failureEvent fault]
      return before ++ failed ++ Outcome.ofAnswer (.error fault)
  | .ok session =>
      let opened ← note outside log fun _ => openedEvents session.storePath
      let command := invocation.command
      let setting ← Session.settingOf outside engine session command
      let answer ← Session.perform outside setting session command
      let done ← note outside log fun _ => command.allEvents setting session.database answer
      return before ++ opened ++ done ++ Outcome.ofAnswer answer

/-- Run the program with the words of its command line. -/
def run (engine : Engine) (words : List String) : m Outcome := do
  match Invocation.ofWords words with
  | .error fault => return Outcome.ofUsage fault
  | .ok invocation =>
      let settings ← loggingFor outside invocation
      let notices := LogPlan.notices settings (.ofEnvironment (← outside.environment))
      let told : Outcome := { stderr := String.join (notices.map (· ++ "\n")) }
      match ← openLog outside settings with
      | .error fault =>
          return told ++ Outcome.failure 1 ("Failed to initialize logging: " ++ fault.message)
      | .ok log => return told ++ (← carryOut outside engine log invocation)

end Program

end PageInjection
