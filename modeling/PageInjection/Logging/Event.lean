import PageInjection.Text.Numeral
import PageInjection.Text.Quoted

/-!
# Log events

What is worth a line in the log: an event has a target, a level, a message and
fields, and it may happen within spans, the stretches of a run that have a name.
-/

namespace PageInjection

/-- How much a message matters, or which messages pass. -/
inductive LogLevel where
  | off
  | error
  | warn
  | info
  | debug
  | trace
deriving DecidableEq, Repr

namespace LogLevel

/-- More chatter, higher rank. -/
def rank : LogLevel → Nat
  | .off => 0
  | .error => 1
  | .warn => 2
  | .info => 3
  | .debug => 4
  | .trace => 5

def ofRank? : Nat → Option LogLevel
  | 0 => some .off
  | 1 => some .error
  | 2 => some .warn
  | 3 => some .info
  | 4 => some .debug
  | 5 => some .trace
  | _ => none

/-- The name of a level as log lines show it. -/
def name : LogLevel → String
  | .off => "OFF"
  | .error => "ERROR"
  | .warn => "WARN"
  | .info => "INFO"
  | .debug => "DEBUG"
  | .trace => "TRACE"

/-- A level by its name in any ASCII case, or by its rank. -/
def ofWord? (word : List Char) : Option LogLevel :=
  match (Text.uint64? word).bind (ofRank? ·.toNat) with
  | some level => some level
  | none =>
      match String.ofList (word.map Char.toLower) with
      | "" => some .error
      | "off" => some .off
      | "error" => some .error
      | "warn" => some .warn
      | "info" => some .info
      | "debug" => some .debug
      | "trace" => some .trace
      | _ => none

end LogLevel

/-- The value of a field: a text that is shown as it is, a text that plain lines
show in quotes, a number, or a truth value. -/
inductive LogValue where
  | shown (text : String)
  | quoted (text : String)
  | number (value : Nat)
  | flag (value : Bool)
deriving DecidableEq, Repr

def LogValue.plain : LogValue → String
  | .shown text => text
  | .quoted text => Text.quoted text
  | .number value => toString value
  | .flag value => if value then "true" else "false"

/-- A name and its value. -/
structure LogField where
  name : String
  value : LogValue
deriving DecidableEq, Repr

/-- A stretch of a run. -/
structure LogSpan where
  name : String
  target : String
  fields : List LogField
deriving DecidableEq, Repr

def LogSpan.level : LogSpan → LogLevel := fun _ => .info

/-- Something that happened.  The outermost span comes first; what happens apart
is in no span. -/
structure LogEvent where
  target : String
  level : LogLevel
  message : String
  fields : List LogField := []
  spans : List LogSpan := []
  isApart : Bool := false
deriving DecidableEq, Repr

namespace LogEvent

def within (span : LogSpan) (event : LogEvent) : LogEvent :=
  if event.isApart then event else { event with spans := span :: event.spans }

end LogEvent

end PageInjection
