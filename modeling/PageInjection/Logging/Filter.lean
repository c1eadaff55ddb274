import PageInjection.Logging.Event
import PageInjection.Text.Blank
import PageInjection.Text.Separated

/-!
# Log filters

A directive gives a level to the targets whose names start with a text, or to
all targets.  A filter is a list of directives; the one with the longest target
that fits a message decides.  A directive may also be about spans: within a span
it is about, everything up to its level passes.
-/

namespace PageInjection

/-- Which spans a directive is about: those with a name, and those with certain
fields, whatever they hold or with a value. -/
structure SpanPattern where
  name : Option String := none
  fields : List (String × Option String) := []
deriving DecidableEq, Repr

/-- One line of a filter. -/
structure LogDirective where
  target : Option String
  level : LogLevel
  span : SpanPattern := {}
deriving DecidableEq, Repr

/-- Why a text is no directive. -/
inductive DirectiveFault where
  | malformed
  | unknownLevel
deriving DecidableEq, Repr

def DirectiveFault.message : DirectiveFault → String
  | .malformed => "invalid filter directive"
  | .unknownLevel =>
      "error parsing level filter: expected one of \"off\", \"error\", \"warn\", " ++
        "\"info\", \"debug\", \"trace\", or a number 0-5"

namespace LogDirective

/-- Whether a target may start with a character.  Beyond ASCII this is an approximation:
all characters but blanks are taken for letters and digits. -/
def startsTarget (c : Char) : Bool :=
  c == '-' || c == ':' || c == '_' || c.isAlphanum || (c.toNat ≥ 0x80 && !Text.isBlank c)

/-- The level after an equals sign; no level at all lets everything through. -/
def levelOf (text : List Char) : Except DirectiveFault LogLevel :=
  match text with
  | [] => .ok .trace
  | text =>
      match LogLevel.ofWord? text with
      | some level => .ok level
      | none => .error .unknownLevel

/-- The end of a directive behind a span: nothing, or a level. -/
def afterSpan (target : Option String) (span : SpanPattern) :
    List Char → Except DirectiveFault LogDirective
  | [] => .ok ⟨target, .trace, span⟩
  | '=' :: rest => do return ⟨target, ← levelOf rest, span⟩
  | _ :: _ => .error .malformed

/-- A field of a span, with the value it must have when there is one. -/
def fieldOf (text : List Char) : String × Option String :=
  let parts := (Text.splitOn '=' text).map String.ofList
  (parts.headD "", parts[1]?)

/-- The fields of a span, up to the closing bracket. -/
def inFields (target name : Option String) (text : List Char) :
    Except DirectiveFault LogDirective :=
  let (fields, rest) := text.span (· != '\x7d')
  let fields := Text.splitOn ',' fields
  if fields.any List.isEmpty then .error .malformed
  else
    match rest with
    | _ :: ']' :: rest => afterSpan target ⟨name, fields.map fieldOf⟩ rest
    | _ => .error .malformed

/-- A span, after its opening bracket. -/
def inSpan (target : Option String) (text : List Char) : Except DirectiveFault LogDirective :=
  let (name, rest) := text.span fun c => c != ']' && c != '\x7b'
  let name := String.ofList name
  match rest with
  | ']' :: rest => afterSpan target { name := some name } rest
  | _ :: rest => inFields target (if name.isEmpty then none else some name) rest
  | [] => .error .malformed

/-- Read a directive such as `info`, `store`, or `store=debug`.  This is exact for texts
that start with an ASCII character, have no blanks at their ends and no comma in them.  For
all others it is an approximation: blanks at the ends are left out, and a comma is a
character of the target or of the level that it stands in. -/
def parse (text : List Char) : Except DirectiveFault LogDirective :=
  match Text.trim text with
  | [] => .error .malformed
  | '[' :: rest => inSpan none rest
  | c :: rest =>
      if !startsTarget c then .error .malformed
      else
        let (more, rest) := rest.span fun c => c != '=' && c != '['
        let target := c :: more
        match rest with
        | '=' :: level => do
          return { target := some (String.ofList target), level := ← levelOf level }
        | _ :: rest => inSpan (some (String.ofList target)) rest
        | [] =>
            match LogLevel.ofWord? target with
            | some level => .ok { target := none, level }
            | none => .ok { target := some (String.ofList target), level := .trace }

/-- Whether a directive speaks about a target. -/
def covers (directive : LogDirective) (target : String) : Bool :=
  match directive.target with
  | some lead => target.startsWith lead
  | none => true

/-- Whether a directive decides about messages wherever they come from. -/
def isGeneral (directive : LogDirective) : Bool :=
  directive.span.name.isNone && directive.span.fields.all (·.2.isNone)

def opensSpans (directive : LogDirective) : Bool :=
  directive.span.name.isSome || !directive.span.fields.isEmpty

def concerns (directive : LogDirective) (span : LogSpan) : Bool :=
  directive.covers span.target && directive.span.name.all (· == span.name) &&
    directive.span.fields.all fun (name, _) => span.fields.any (·.name == name)

/-- Whether a span has the values a directive asks for. -/
def agrees (directive : LogDirective) (span : LogSpan) : Bool :=
  directive.span.fields.all fun (name, value) =>
    value.all fun text => span.fields.contains ⟨name, .shown text⟩

/-- The length of the target named, none being shortest. -/
def weight (directive : LogDirective) : Nat :=
  match directive.target with
  | some lead => lead.utf8ByteSize + 1
  | none => 0

/-- Whether a directive goes before another one: it names the longer target, or as
long a target and more fields. -/
def goesBefore (directive other : LogDirective) : Bool :=
  directive.weight > other.weight ||
    (directive.weight == other.weight &&
      directive.span.fields.length ≥ other.span.fields.length)

end LogDirective

/-- The directives that decide which messages are logged. -/
structure LogFilter where
  directives : List LogDirective
deriving DecidableEq, Repr

namespace LogFilter

/-- The directives between the commas of a text. -/
def pieces (text : String) : List (List Char) :=
  (Text.splitOn ',' text.toList).filter (!·.isEmpty)

/-- A filter with only errors passing when there are no directives. -/
def ofDirectives (directives : List LogDirective) : LogFilter :=
  ⟨if directives.isEmpty then [⟨none, .error, {}⟩] else directives⟩

/-- Read a filter in which every directive must be right. -/
def parse (text : String) : Except DirectiveFault LogFilter := do
  return ofDirectives (← (pieces text).mapM LogDirective.parse)

/-- Read a filter, leaving out the directives that are wrong. -/
def parseLossy (text : String) : LogFilter :=
  ofDirectives ((pieces text).filterMap fun piece => (LogDirective.parse piece).toOption)

/-- Add a directive; it replaces one for the same target and the same spans. -/
def add (filter : LogFilter) (directive : LogDirective) : LogFilter :=
  ⟨filter.directives.filter (fun other =>
    other.target != directive.target || other.span != directive.span) ++ [directive]⟩

/-- The directive that decides about a target; one that asks for fields decides
about no event without them. -/
def deciding? (filter : LogFilter) (target : String) (lacks : String → Bool) :
    Option LogDirective :=
  (filter.directives.filter fun directive =>
    directive.isGeneral && directive.covers target &&
      directive.span.fields.all fun (name, _) => !lacks name).foldl
    (fun best directive =>
      match best with
      | some found => if directive.goesBefore found then some directive else best
      | none => some directive)
    none

/-- Whether something at a level passes, wherever it comes from. -/
def passes (filter : LogFilter) (target : String) (lacks : String → Bool) (level : LogLevel) :
    Bool :=
  match filter.deciding? target lacks with
  | some directive => level.rank ≤ directive.level.rank
  | none => false

def passesSpan (filter : LogFilter) (span : LogSpan) : Bool :=
  filter.passes span.target (fun _ => false) span.level

/-- Up to which rank everything within a span passes, if some directive is about
the span. -/
def opening? (filter : LogFilter) (span : LogSpan) : Option Nat :=
  let about := filter.directives.filter fun directive =>
    directive.opensSpans && directive.concerns span
  if about.isEmpty then none
  else some (((about.filter (·.agrees span)).map (·.level.rank)).foldl max 0)

/-- The spans that are entered, and up to which rank everything within them
passes. -/
def entered (filter : LogFilter) : (rank : Nat) → List LogSpan → List LogSpan × Nat
  | rank, [] => ([], rank)
  | rank, span :: inner =>
      match filter.opening? span with
      | some opened =>
          let (spans, rank) := filter.entered (max rank opened) inner
          (span :: spans, rank)
      | none =>
          let (spans, last) := filter.entered rank inner
          (if span.level.rank ≤ rank || filter.passesSpan span then span :: spans else spans, last)

/-- What the log gets of an event: nothing, or the event in the spans that were
entered. -/
def pass? (filter : LogFilter) (event : LogEvent) : Option LogEvent :=
  let (spans, rank) := filter.entered 0 event.spans
  let lacks (name : String) : Bool := name != "message" && event.fields.all (·.name != name)
  if event.level.rank ≤ rank || filter.passes event.target lacks event.level then
    some { event with spans }
  else none

end LogFilter

end PageInjection
