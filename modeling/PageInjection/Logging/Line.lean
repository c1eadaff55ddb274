import PageInjection.Json.Write
import PageInjection.Logging.Event
import PageInjection.Timestamp

/-!
# Log lines

An event as a line of the log: a plain one, one with colors for a terminal, or an
object.  A plain line shows the spans before the message; the characters that
steer a terminal are escaped in messages.
-/

namespace PageInjection

namespace LogLevel

def color : LogLevel → String
  | .error => "31"
  | .warn => "33"
  | .info => "32"
  | .debug => "34"
  | .trace => "35"
  | .off => "0"

/-- The name of a level, five characters wide. -/
def column (level : LogLevel) : String :=
  let name := level.name
  String.ofList (List.replicate (5 - name.length) ' ') ++ name

end LogLevel

def LogValue.toJson : LogValue → Json
  | .shown text => .text text
  | .quoted text => .text text
  | .number value => .integer value
  | .flag value => .bool value

def LogField.members (fields : List LogField) : List (String × Json) :=
  fields.map fun field => (field.name, field.value.toJson)

/-- The span as an object: its fields in the order of their names, and its name. -/
def LogSpan.toJson (span : LogSpan) : Json :=
  let fields := span.fields.mergeSort fun first second => first.name ≤ second.name
  .object (LogField.members fields ++ [("name", .text span.name)])

namespace LogLine

/-- How parts of a line are set apart. -/
inductive Style where
  | bold
  | dim
  | slanted
  | level (name : LogLevel)
deriving DecidableEq, Repr

def Style.code : Style → String
  | .bold => "1"
  | .dim => "2"
  | .slanted => "3"
  | .level name => name.color

/-- A text in a style, where lines have colors. -/
def styled (colored : Bool) (style : Style) (text : String) : String :=
  if colored then "\x1b[" ++ style.code ++ "m" ++ text ++ "\x1b[0m" else text

def escapeChar (c : Char) : List Char :=
  if c.toNat = 0x1b || c.toNat = 0x07 || c.toNat = 0x08 || c.toNat = 0x0c || c.toNat = 0x7f then
    '\\' :: 'x' :: Text.hexadecimal 2 c.toNat
  else if 0x80 ≤ c.toNat && c.toNat ≤ 0x9f then
    ['\\', 'u', '\x7b'] ++ Text.hexDigits c.toNat ++ ['\x7d']
  else [c]

/-- A message, with no character that steers a terminal. -/
def escaped (message : String) : String :=
  String.ofList (message.toList.flatMap escapeChar)

def field (colored : Bool) (field : LogField) : String :=
  styled colored .slanted field.name ++ styled colored .dim "=" ++ field.value.plain

def span (colored : Bool) (span : LogSpan) : String :=
  let fields := " ".intercalate (span.fields.map (field colored))
  styled colored .bold span.name ++
    (if span.fields.isEmpty then ""
      else styled colored .bold "\x7b" ++ fields ++ styled colored .bold "\x7d") ++
    styled colored .dim ":"

def plain (colored : Bool) (time : String) (event : LogEvent) : String :=
  let spans := String.join (event.spans.map (span colored))
  " ".intercalate (
    [styled colored .dim time, styled colored (.level event.level) event.level.column] ++
    (if event.spans.isEmpty then [] else [spans]) ++
    [styled colored .dim event.target ++ styled colored .dim ":", escaped event.message] ++
    event.fields.map (field colored))

def toJson (time : String) (event : LogEvent) : Json :=
  let spans := match event.spans.getLast? with
    | some last =>
        [("span", last.toJson), ("spans", Json.list (event.spans.map LogSpan.toJson))]
    | none => []
  .object ([("timestamp", .text time), ("level", .text event.level.name),
    ("fields", .object (("message", .text event.message) :: LogField.members event.fields)),
    ("target", .text event.target)] ++ spans)

end LogLine

end PageInjection
