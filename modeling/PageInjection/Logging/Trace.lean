import PageInjection.Command.Execute
import PageInjection.Logging.Event

/-!
# What commands leave in the log

The events of a command, in their order: tokens of rules that look like special
forms and are none, the decision of the gate, slots that cannot be read, and the
ends of scripts with the remarks they made.  Remarks are made outside of all
spans.  Commands do not depend on these events.
-/

namespace PageInjection

namespace ConditionRule

/-- The event of a token, as its rule sees it. -/
def tokenEvent (token message : String) : LogEvent :=
  { target := "codeweave::rules", level := .debug, message
    fields := [⟨"token", .quoted token⟩] }

/-- The event of reading a token: one that starts like a special form and has no
id, or no name. -/
def events : ConditionRule → List LogEvent
  | .literal raw =>
      if (Text.dropLead? resourceLead raw.toList).isSome then
        [tokenEvent raw "Resource rule without a numeric id, treating as literal"]
      else if raw.toList = categoryLead then
        [tokenEvent raw "Category rule without a name, treating as literal"]
      else []
  | _ => []

end ConditionRule

namespace RuleSet

def readEvents (rules : RuleSet) : List LogEvent :=
  rules.rules.flatMap ConditionRule.events

/-- The event of looking for a rule that fits. -/
def matchEvent (rules : RuleSet) (context : RequestContext) : LogEvent :=
  let event : LogEvent := { target := "codeweave::rules", level := .debug, message := "" }
  match rules.firstMatch context with
  | some rule => { event with
      message := "Condition rule matched", fields := [⟨"rule", .shown rule.token⟩] }
  | none => { event with
      message := "No condition rule matched", fields := [⟨"rules", .number rules.rules.length⟩] }

/-- The events of deciding whether to inject; the rules are not read for an admin
request. -/
def decisionEvents (text : String) (context : RequestContext) : List LogEvent :=
  if context.isAdmin then
    [{ target := "codeweave::rules", level := .debug
       message := "Admin request, skipping injection" }]
  else
    let rules := parse text
    rules.readEvents ++ [rules.matchEvent context]

end RuleSet

namespace Sandbox

def remarkEvent (note : Script.DebugNote) : LogEvent :=
  { target := "codeweave::sandbox", level := .debug, message := note.text, isApart := true
    fields := [⟨"source", .quoted "fragment"⟩, ⟨"position", .shown note.spot.words⟩] }

def remarkEvents (engine : Engine) (limits : Limits) (script : String) (context : RequestContext) :
    List LogEvent :=
  if script.isEmpty then [] else (engine limits context script).notes.map remarkEvent

def endEvent (fragment : Fragment) (result : Except ScriptFault String) : LogEvent :=
  let fields := [⟨"scope", .shown fragment.scope.name⟩, ⟨"digest", .shown fragment.digest⟩]
  match result with
  | .ok output =>
      { target := "codeweave::sandbox", level := .info
        message := "Executed server script fragment"
        fields := fields ++ [⟨"output_bytes", .number output.utf8ByteSize⟩] }
  | .error fault =>
      { target := "codeweave::sandbox", level := .warn
        message := "Server script fragment failed"
        fields := fields ++ [⟨"error", .shown fault.message⟩] }

/-- The events of a stored script; an empty one is not run. -/
def fragmentEvents (engine : Engine) (limits : Limits) (fragment : Fragment)
    (context : RequestContext) : List LogEvent :=
  if fragment.content.isEmpty then []
  else
    let transcript := engine limits context fragment.content
    transcript.notes.map remarkEvent ++ [endEvent fragment (judge limits transcript)]

end Sandbox

namespace Injection

def failureEvents (result : Except StoreFault α) (message : String) (fields : List LogField) :
    List LogEvent :=
  match result with
  | .ok _ => []
  | .error fault =>
      [{ target := "codeweave::pipeline", level := .warn, message
         fields := fields ++ [⟨"error", .shown fault.message⟩] }]

def gateEvents (injection : Injection) (context : RequestContext) : List LogEvent :=
  failureEvents injection.source.rules "Failed to read condition rules, treating as empty" [] ++
    RuleSet.decisionEvents injection.ruleText context ++
    [{ target := "codeweave::pipeline", level := .debug, message := "Rule gate evaluated"
       fields := [⟨"open", .flag (injection.gate context)⟩] }]

def globalEvents (injection : Injection) (kind : FragmentKind) : List LogEvent :=
  failureEvents (injection.source.global kind) "Failed to read global fragment, treating as empty"
    [⟨"kind", .shown kind.name⟩]

/-- The events of reading the script of a resource. -/
def resourceEvents (injection : Injection) (id : ResourceId) : List LogEvent :=
  failureEvents (injection.source.resource id)
    "Failed to read resource fragment, treating as empty" [⟨"resource_id", .number id.toNat⟩]

/-- The events of a stored script of an injection. -/
def scriptEvents (injection : Injection) (fragment : Fragment) (context : RequestContext) :
    List LogEvent :=
  Sandbox.fragmentEvents injection.engine injection.limits fragment context

/-- The events of what passes only through the gate. -/
def gatedEvents (injection : Injection) (context : RequestContext) : LifecyclePoint → List LogEvent
  | .head => injection.globalEvents .style
  | .footer =>
      injection.globalEvents .clientScript ++ injection.globalEvents .serverScript ++
        injection.scriptEvents (injection.globalFragment .serverScript) context

/-- The events of what belongs to the current resource. -/
def ownEvents (injection : Injection) (context : RequestContext) : LifecyclePoint → List LogEvent
  | .head => []
  | .footer =>
      match context.singularResourceId with
      | some id =>
          injection.resourceEvents id ++
            injection.scriptEvents (injection.resourceFragment id) context
      | none => []

def pointSpan (context : RequestContext) (point : LifecyclePoint) : LogSpan :=
  let id := match context.resourceId with
    | some id => "Some(" ++ String.ofList (Text.decimal id.toNat) ++ ")"
    | none => "None"
  { name := "inject", target := "codeweave::pipeline"
    fields := [⟨"point", .shown point.name⟩, ⟨"resource_id", .shown id⟩] }

def events (injection : Injection) (context : RequestContext) (point : LifecyclePoint) :
    List LogEvent :=
  let gated := if injection.gate context then injection.gatedEvents context point else []
  (injection.gateEvents context ++ gated ++ injection.ownEvents context point).map
    (LogEvent.within (pointSpan context point))

end Injection

namespace Command

/-- The span in which a command is carried out. -/
def span (command : Command) : LogSpan :=
  { name := "command", target := "codeweave", fields := [⟨"command", .shown command.name⟩] }

/-- The events of a command while it works on a database. -/
def events (setting : CommandSetting) (database : Database) : Command → List LogEvent
  | .render point _ request =>
      let injection : Injection := ⟨setting.engine, setting.limits, database.source⟩
      injection.events request.context point
  | .check (some rules) _ => (RuleSet.parse rules).readEvents
  | .check none _ =>
      match database.rules with
      | .ok rules => (RuleSet.parse rules).readEvents
      | .error _ => []
  | .exec source request =>
      match content setting source with
      | .ok script => Sandbox.remarkEvents setting.engine setting.limits script request.context
      | .error _ => []
  | .setRules text => (RuleSet.parse text).readEvents
  | _ => []

def endEvent (result : Except CommandFault String) : LogEvent :=
  match result with
  | .ok _ =>
      { target := "codeweave", level := .info, message := "Command completed successfully" }
  | .error fault =>
      { target := "codeweave", level := .error, message := "Command failed: " ++ fault.message }

/-- The events of a command that came to an end, within its span. -/
def allEvents (setting : CommandSetting) (database : Database) (command : Command)
    (result : Except CommandFault String) : List LogEvent :=
  (command.events setting database ++ [endEvent result]).map (LogEvent.within command.span)

end Command

end PageInjection
