import PageInjection.Command
import PageInjection.CommandLine.Level
import PageInjection.Text.Numeral

/-!
# The command line

`Invocation.ofWords` reads the words of a command line: options for the whole
run, the name of a command, and the options of that command.
-/

namespace PageInjection

namespace OptionShape

def switch (name : String) (set : δ → δ) : OptionShape δ where
  name
  take _ draft := .ok (set draft)

def text (name value : String) (set : String → δ → δ) : OptionShape δ where
  name
  value := some value
  take text draft := .ok (set text draft)

/-- An option with a path, which cannot be empty. -/
def path (name value : String) (set : String → δ → δ) : OptionShape δ where
  name
  value := some value
  take text draft := if text.isEmpty then .error .missing else .ok (set text draft)

def id (name value : String) (set : ResourceId → δ → δ) : OptionShape δ where
  name
  value := some value
  take text draft :=
    match Text.readUInt64 text.toList with
    | .ok id => .ok (set id draft)
    | .error fault => .error (.wrong fault.message)

def word (name value : String) (read? : String → Option α) (unknown : String → String)
    (set : α → δ → δ) : OptionShape δ where
  name
  value := some value
  take text draft :=
    match read? text with
    | some found => .ok (set found draft)
    | none => .error (.wrong (unknown text))

end OptionShape

namespace RequestFlags

def options : List (OptionShape RequestFlags) := [
  .id "resource-id" "RESOURCE_ID" fun id flags => { flags with resourceId := some id },
  .text "slug" "SLUG" fun slug flags => { flags with slug := some slug },
  .text "title" "TITLE" fun title flags => { flags with title := some title },
  .word "type" "RESOURCE_TYPE" ResourceType.ofWord? ResourceType.unknownWord
    fun type flags => { flags with type := some type },
  { OptionShape.text "category" "CATEGORIES" fun slug flags =>
      { flags with categories := flags.categories ++ [slug] } with repeats := true },
  .switch "singular" fun flags => { flags with isSingular := true },
  .switch "admin" fun flags => { flags with isAdmin := true }]

end RequestFlags

namespace ContentDraft

def fileOption : OptionShape ContentDraft :=
  .path "file" "FILE" fun path draft => { draft with file := some path }

def contentOption : OptionShape ContentDraft :=
  .text "content" "CONTENT" fun text draft => { draft with content := some text }

def options : List (OptionShape ContentDraft) := [fileOption, contentOption]

/-- The one place the text is taken from; `given` are the names of the options in
their order. -/
def source (draft : ContentDraft) (given : List String) : Except UsageFault ContentSource :=
  match draft.file, draft.content with
  | some path, none => .ok (.file path)
  | none, some text => .ok (.inline text)
  | none, none => .error .missingRequired
  | some _, some _ =>
      let file := fileOption.written
      let content := contentOption.written
      .error (if given.idxOf "file" < given.idxOf "content" then .conflict file content
        else .conflict content file)

end ContentDraft

namespace Command

/-- What was said to the command that renders. -/
structure RenderDraft where
  point : LifecyclePoint := .footer
  showErrors : Bool := false
  request : RequestFlags := {}

def renderLevel : Level RenderDraft where
  options := [
    .word "point" "POINT" LifecyclePoint.ofWord? LifecyclePoint.unknownWord
      fun point draft => { draft with point },
    .switch "show-errors" fun draft => { draft with showErrors := true }] ++
    RequestFlags.options.map (.onPart RenderDraft.request fun request draft =>
      { draft with request })

/-- What was said to the command that checks rules. -/
structure CheckDraft where
  rules : Option String := none
  request : RequestFlags := {}

def checkLevel : Level CheckDraft where
  options :=
    .text "rules" "RULES" (fun rules draft => { draft with rules := some rules }) ::
    RequestFlags.options.map (.onPart CheckDraft.request fun request draft =>
      { draft with request })

/-- What was said to the command that runs a script. -/
structure ExecDraft where
  content : ContentDraft := {}
  request : RequestFlags := {}

def execLevel : Level ExecDraft where
  options :=
    ContentDraft.options.map (.onPart ExecDraft.content fun content draft =>
      { draft with content }) ++
    RequestFlags.options.map (.onPart ExecDraft.request fun request draft =>
      { draft with request })

def setGlobalLevel : Level ContentDraft where
  options := ContentDraft.options

/-- What was said to the command that sets the script of a resource. -/
structure ResourceDraft where
  id : Option ResourceId := none
  content : ContentDraft := {}

def idOption : OptionShape ResourceDraft :=
  .id "id" "ID" fun id draft => { draft with id := some id }

/-- The command that sets the script of a resource. -/
def setResourceLevel : Level ResourceDraft where
  options := idOption ::
    ContentDraft.options.map (.onPart ResourceDraft.content fun content draft =>
      { draft with content })

def setRulesLevel : Level (Option String) where
  options := []
  freeWord := some fun text _ => some text

/-- The commands that clear something that needs no further words. -/
def bareLevel : Level Unit where
  options := []

/-- The command that clears the script of a resource. -/
def clearResourceLevel : Level ResourceDraft where
  options := [idOption]

def listLevel : Level String where
  options := [.text "format" "FORMAT" fun format _ => format]

def words : List String := ["render", "check", "exec", "set", "clear", "list"]

def slotWords : List String := ["style", "script", "server", "resource", "rules"]

/-- The commands that only name what they work on. -/
def slotLevel : Level Unit where
  options := []
  commands := slotWords

def require : Option α → Except UsageFault α
  | some value => .ok value
  | none => .error .missingRequired

/-- Read the command that sets a global fragment. -/
def readSetGlobal (kind : FragmentKind) (words : List String) : Except UsageFault Command := do
  let reading ← setGlobalLevel.readAll {} words
  return .setGlobal kind (← reading.draft.source reading.given)

def readSet (slot : String) (words : List String) : Except UsageFault Command :=
  match slot with
  | "style" => readSetGlobal .style words
  | "script" => readSetGlobal .clientScript words
  | "server" => readSetGlobal .serverScript words
  | "resource" => do
      let reading ← setResourceLevel.readAll {} words
      let source ← reading.draft.content.source reading.given
      return .setResource (← require reading.draft.id) source
  | "rules" => do
      let reading ← setRulesLevel.readAll none words
      return .setRules (← require reading.draft)
  | other => .error (.unknownCommand other)

/-- Read the command that clears a global fragment. -/
def readClearGlobal (kind : FragmentKind) (words : List String) : Except UsageFault Command := do
  let _ ← bareLevel.readAll () words
  return .clearGlobal kind

def readClear (slot : String) (words : List String) : Except UsageFault Command :=
  match slot with
  | "style" => readClearGlobal .style words
  | "script" => readClearGlobal .clientScript words
  | "server" => readClearGlobal .serverScript words
  | "resource" => do
      let reading ← clearResourceLevel.readAll {} words
      return .clearResource (← require reading.draft.id)
  | "rules" => do
      let _ ← bareLevel.readAll () words
      return .clearRules
  | other => .error (.unknownCommand other)

/-- What a request for help is about; it must be a command. -/
def readHelp : (commands : List String) → (words : List String) → UsageFault
  | _, [] => .help
  | commands, word :: words =>
      if word = Level.helpWord && !commands.isEmpty then readHelp [] words
      else if !commands.contains word then .unknownCommand word
      else if commands = Command.words && (word = "set" || word = "clear") then
        readHelp slotWords words
      else readHelp [] words

/-- Read a command that is followed by what it works on. -/
def readSlot (about : String) (read : String → List String → Except UsageFault Command)
    (words : List String) : Except UsageFault Command := do
  let (reading, next) ← slotLevel.readWords { draft := () } false words
  match next with
  | none =>
      let _ ← reading.settle
      throw (.helpForMissing about)
  | some (slot, words) =>
      if slot = Level.helpWord then throw (readHelp slotWords words)
      else read slot words

/-- Read a command from its name and the words behind it. -/
def read (name : String) (words : List String) : Except UsageFault Command :=
  match name with
  | "render" => do
      let reading ← renderLevel.readAll {} words
      return .render reading.draft.point reading.draft.showErrors reading.draft.request
  | "check" => do
      let reading ← checkLevel.readAll {} words
      return .check reading.draft.rules reading.draft.request
  | "exec" => do
      let reading ← execLevel.readAll {} words
      return .exec (← reading.draft.content.source reading.given) reading.draft.request
  | "set" => readSlot "Store fragments and rules" readSet words
  | "clear" => readSlot "Remove stored fragments and rules" readClear words
  | "list" => do
      let reading ← listLevel.readAll "text" words
      return .list reading.draft
  | other => .error (.unknownCommand other)

end Command

namespace Invocation

/-- The options for the whole run, set in an invocation without its command. -/
def level : Level Invocation where
  commands := Command.words
  options := [
    .path "workspace" "WORKSPACE" fun path draft => { draft with workspace := path },
    .path "config" "CONFIG" fun path draft => { draft with configFile := some path },
    .path "store" "STORE" fun path draft => { draft with store := some path },
    .switch "verbose" fun draft => { draft with isVerbose := true },
    .switch "quiet" fun draft => { draft with isQuiet := true },
    .text "log-level" "LOG_LEVEL" fun word draft => { draft with logLevel := some word },
    .text "log-format" "LOG_FORMAT" fun word draft => { draft with logFormat := some word },
    .text "log-output" "LOG_OUTPUT" fun word draft => { draft with logOutput := some word },
    .path "log-file" "LOG_FILE" fun path draft => { draft with logFile := some path }]

def about : String :=
  "Inject global and per-resource style, script, and server code fragments"

def ofWords (words : List String) : Except UsageFault Invocation := do
  let (reading, next) ← level.readWords { draft := { command := .list "text" } } false words
  match next with
  | none =>
      let reading ← reading.settle
      throw (if reading.given.isEmpty then .helpForMissing about else .missingCommand)
  | some (name, words) =>
      if name = Level.helpWord then throw (Command.readHelp Command.words words)
      let command ← Command.read name words
      return { (← reading.settle).draft with command }

end Invocation

end PageInjection
