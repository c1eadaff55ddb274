import PageInjection.Environment
import PageInjection.Fault
import PageInjection.Location
import PageInjection.Logging.Filter
import PageInjection.Logging.Settings

/-!
# Setting the log up

From the settings and the environment to a plan of the log: which messages pass,
how they look, where they go.  The environment goes before the settings.  Of the
level in the settings, pieces that are no directives are left out with a notice.
-/

namespace PageInjection

/-- The variables that speak about the log. -/
structure LogVariables where
  filter : Option String := none
  format : Option String := none
  output : Option String := none
  modules : Option String := none
deriving DecidableEq, Repr

namespace LogVariables

def ofEnvironment (environment : Environment) : LogVariables where
  filter := environment.get? "CODEWEAVE_LOG"
  format := environment.get? "CODEWEAVE_LOG_FORMAT"
  output := environment.get? "CODEWEAVE_LOG_OUTPUT"
  modules := environment.get? "CODEWEAVE_LOG_MODULES"

end LogVariables

/-- How a run logs. -/
structure LogPlan where
  filter : LogFilter
  format : LogFormat
  targets : LogTargets
  colored : Bool
deriving DecidableEq, Repr

namespace LogPlan

/-- The directive that gives a level to a module. -/
def moduleDirective (lead : String) (name level : List Char) :
    Except CommandFault LogDirective :=
  match LogDirective.parse (name ++ '=' :: level) with
  | .ok directive => .ok directive
  | .error fault => .error (.configuration (lead ++ fault.message))

/-- The name and the level in a text such as `store = debug`. -/
def moduleLevel? (text : List Char) : Option (List Char × List Char) :=
  match text.span (· != '=') with
  | (name, _ :: level) => some (Text.trim name, Text.trim level)
  | (_, []) => none

/-- The directives for the modules named in the settings. -/
def ownDirectives (settings : LoggingSettings) : Except CommandFault (List LogDirective) :=
  settings.modules.mapM fun (name, level) =>
    moduleDirective "Invalid log directive: " name.toList level.toList

/-- The directives for the modules named in the environment. -/
def outerDirectives (text : String) : Except CommandFault (List LogDirective) :=
  ((Text.splitOn ',' text.toList).filterMap moduleLevel?).mapM fun (name, level) =>
    moduleDirective "Invalid log directive from env: " name level

/-- The filter of the environment, when it is set and right. -/
def outerFilter? (given : LogVariables) : Option LogFilter :=
  given.filter.bind fun text => (LogFilter.parse text).toOption

def filterOf (settings : LoggingSettings) (given : LogVariables) :
    Except CommandFault LogFilter := do
  if let some filter := outerFilter? given then return filter
  if settings.level = "off" then return .parseLossy "off"
  let own ← ownDirectives settings
  let outer ← outerDirectives (given.modules.getD "")
  return (own ++ outer).foldl LogFilter.add (.parseLossy settings.level)

def formatOf (settings : LoggingSettings) (given : LogVariables) :
    Except CommandFault LogFormat :=
  match given.format.bind fun word => (LogFormat.ofWord word).toOption with
  | some format => .ok format
  | none =>
      match LogFormat.ofWord settings.format with
      | .ok format => .ok format
      | .error reason => .error (.configuration reason)

def targetsOf (settings : LoggingSettings) (given : LogVariables) :
    Except CommandFault LogTargets :=
  match LogTargets.ofWord (given.output.getD settings.output) with
  | .ok targets => .ok targets
  | .error reason => .error (.configuration reason)

/-- The log file when the settings name none: below the folder of program states,
which a variable names or which lies in the home folder. -/
def standingFile? (environment : Environment) (accountHome : Option String) : Option String := do
  let home := (environment.filled? "HOME").orElse fun _ => accountHome
  let states ← match (environment.get? "XDG_STATE_HOME").filter Location.isAbsolute with
    | some folder => home.map fun _ => folder
    | none => home.map (Location.join · ".local/state")
  return Location.join (Location.join states "codeweave") "codeweave.log"

/-- The plan of the log, none when it is switched off. -/
def make (settings : LoggingSettings) (given : LogVariables) :
    Except CommandFault (Option LogPlan) := do
  if !settings.enabled then return none
  let filter ← filterOf settings given
  let format ← formatOf settings given
  let targets ← targetsOf settings given
  return some { filter, format, targets, colored := settings.color && !targets.file }

/-- The notices about pieces of the level that are no directives. -/
def notices (settings : LoggingSettings) (given : LogVariables) : List String :=
  if !settings.enabled || (outerFilter? given).isSome || settings.level == "off" then []
  else
    (LogFilter.pieces settings.level).filterMap fun piece =>
      match LogDirective.parse piece with
      | .ok _ => none
      | .error fault => some ("ignoring `" ++ String.ofList piece ++ "`: " ++ fault.message)

end LogPlan

end PageInjection
