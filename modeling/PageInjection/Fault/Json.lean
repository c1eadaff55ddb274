import PageInjection.Fault
import PageInjection.Json.Decode

/-!
# Failures as JSON

A script's failure is handed to a host as its message.
-/

namespace PageInjection

/-- What a host is told about a failure. -/
structure FaultReport where
  message : String
deriving DecidableEq, Repr

namespace FaultReport

def ofFault (fault : ScriptFault) : FaultReport := ⟨fault.message⟩

def toJson (report : FaultReport) : Json :=
  .object [("message", .text report.message)]

def shape : Json.RecordShape (Option String) FaultReport where
  name := "ErrorInfo"
  fields := ["message"]
  draft := none
  set draft name value :=
    match name with
    | "message" => do return some (← Json.toText "a string" value)
    | _ => .ok draft
  finish draft := do return ⟨← Json.require "message" draft⟩
  hasDefaults := false

def ofJson : Json.Decoder FaultReport := shape.decode

end FaultReport

end PageInjection
