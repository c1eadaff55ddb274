import PageInjection.Fault
import PageInjection.Fragment
import PageInjection.Markup.Escape
import PageInjection.Markup.Strip
import PageInjection.Request
import PageInjection.Script.Evaluate

/-!
# The sandbox for server scripts

A script runs within limits and sees the request as a constant.  What it prints is
handed over only when it ends well; a failure of any kind becomes one comment in
the page, and nothing else of the run is seen.  The interpreter is a parameter:
containment holds whatever it does.
-/

namespace PageInjection

namespace RequestContext

/-- The request as a script sees it.  An id that is beyond the whole numbers of
scripts is not shown. -/
def members (context : RequestContext) : List (String × Script.Value) :=
  let text? (text : Option String) : Script.Value := (text.map .text).getD .unit
  [("categories", .list (context.categories.map .text).toArray),
    ("resource_id", match context.resourceId with
      | some id => if id.toNat < 0x8000000000000000 then .int id.toNat else .unit
      | none => .unit),
    ("singular", .bool context.isSingular),
    ("slug", text? context.slug),
    ("title", text? context.title),
    ("type", text? (context.type.map ResourceType.name))]

end RequestContext

/-- The outcome of running one script. -/
structure InjectionResult where
  markup : String := ""
  error : Option String := none
deriving DecidableEq, Repr

namespace InjectionResult

def empty : InjectionResult := {}

def isFailure (result : InjectionResult) : Bool := result.error.isSome

end InjectionResult

/-- An interpreter of scripts: what it does with a script within limits. -/
abbrev Engine := Limits → RequestContext → String → Script.Transcript

/-- The interpreter of the script language; the request is the constant `ctx`. -/
def Engine.standard : Engine := fun limits context script =>
  Script.transcript limits [("ctx", .map context.members)] script

/-- Where a script comes from, as a failure names it. -/
inductive ScriptOrigin where
  | plain
  | stored (scope : Scope)
deriving DecidableEq, Repr

def ScriptOrigin.label : ScriptOrigin → String
  | .plain => "Script error"
  | .stored .global => "Global script error"
  | .stored (.resource _) => "Resource script error"

namespace Sandbox

/-- The failure of a run that printed too much. -/
def outputFault (limits : Limits) : ScriptFault :=
  .limitExceeded ("Script output exceeded " ++ toString limits.outputBytes.toNat ++ " bytes")

def timeFault (limits : Limits) : ScriptFault :=
  .limitExceeded
    ("Script exceeded time limit of " ++ toString limits.milliseconds.toNat ++ " ms")

/-- What a run hands over, or why it failed. -/
def judge (limits : Limits) (transcript : Script.Transcript) : Except ScriptFault String :=
  match transcript.ending with
  | .finished =>
      let sink := OutputSink.collect limits.outputBytes.toNat transcript.writes
      if sink.overflowed then .error (outputFault limits) else .ok sink.collected
  | .misread message => .error (.compile message)
  | .thrown text => .error (.runtime text)
  | .failed message => .error (.runtime message)
  | .limited message => .error (.limitExceeded message)
  | .halted .output => .error (outputFault limits)
  | .halted .time => .error (timeFault limits)
  | .crashed message => .error (.crashed message)
  | .notStarted reason => .error (.runtime ("Failed to start script thread: " ++ reason))

def run (engine : Engine) (limits : Limits) (origin : ScriptOrigin) (script : String)
    (context : RequestContext) : InjectionResult :=
  if script.isEmpty then .empty
  else
    match judge limits (engine limits context script) with
    | .ok output => { markup := output }
    | .error fault =>
        { markup := Markup.diagnosticComment origin.label fault.message
          error := some fault.message }

/-- Run a script that knows nothing of the request. -/
def execute (engine : Engine) (limits : Limits) (script : String) : InjectionResult :=
  run engine limits .plain script {}

def executeFor (engine : Engine) (limits : Limits) (script : String) (context : RequestContext) :
    InjectionResult :=
  run engine limits .plain script context

/-- Run a stored script; a failure names its scope. -/
def executeFragment (engine : Engine) (limits : Limits) (fragment : Fragment)
    (context : RequestContext) : InjectionResult :=
  run engine limits (.stored fragment.scope) fragment.content context

end Sandbox

end PageInjection
