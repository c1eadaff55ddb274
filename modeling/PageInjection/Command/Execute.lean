import PageInjection.Command
import PageInjection.Command.Report
import PageInjection.Disk
import PageInjection.Store.Database

/-!
# Carrying out commands

A command works on a database and answers with a text.  What it changes stays
changed even if it fails later on.
-/

namespace PageInjection

/-- What a command needs besides the database; `readFile` gives the texts of
files. -/
structure CommandSetting where
  engine : Engine := .standard
  limits : Limits := {}
  now : Int64 := 0
  readFile : String → Except DiskFault String

namespace ContentDraft

/-- The fault of a draft without any place to take the text from. -/
def missing : CommandFault :=
  .invalidArgument "Either --file or --content is required"

/-- The text of a draft, of which a file comes first. -/
def text (setting : CommandSetting) (draft : ContentDraft) : Except CommandFault String :=
  match draft.file, draft.content with
  | some path, _ =>
      (setting.readFile path).mapError fun fault =>
        .invalidArgument ("Failed to read " ++ path ++ ": " ++ fault.message)
  | none, some text => .ok text
  | none, none => .error missing

end ContentDraft

/-- A command at work on a database. -/
abbrev CommandRun := ExceptT CommandFault (StateM Database)

namespace Command

/-- An answer that is known without the database. -/
def liftExcept (answer : Except CommandFault α) : CommandRun α :=
  match answer with
  | .ok value => return value
  | .error fault => throw fault

def reading (read : Database → Except StoreFault α) : CommandRun α := do
  liftExcept ((read (← get)).mapError .store)

/-- The text that a command takes from its source. -/
def content (setting : CommandSetting) (source : ContentSource) : Except CommandFault String :=
  source.draft.text setting

@[simp] theorem content_inline (setting : CommandSetting) (text : String) :
    content setting (.inline text) = .ok text :=
  rfl

theorem content_file (setting : CommandSetting) (path : String) :
    content setting (.file path) = (setting.readFile path).mapError fun fault =>
      .invalidArgument ("Failed to read " ++ path ++ ": " ++ fault.message) :=
  rfl

/-- Put a fragment into its slot and say what is there now. -/
def put (setting : CommandSetting) (slot : Slot) (source : ContentSource) : CommandRun String := do
  let text ← liftExcept (content setting source)
  modify (·.put setting.now ⟨slot.kind, slot.scope, text⟩)
  return Report.stored slot (← reading (·.record slot))

/-- Clear a slot and say whether anything was there. -/
def clear (slot : Slot) : CommandRun Bool :=
  modifyGet (·.clear slot)

def listAs (records : List StoredFragment) : (format : String) → Except CommandFault String
  | "json" => .ok (Report.listedJson records)
  | "text" => .ok (Report.listed records)
  | other => .error (.invalidArgument
      ("Invalid format: " ++ other ++ " (must be 'text' or 'json')"))

def execute (setting : CommandSetting) : Command → CommandRun String
  | .render point showErrors request => do
      let injection : Injection := ⟨setting.engine, setting.limits, (← get).source⟩
      return Report.rendered (injection.render request.context point) showErrors
  | .check (some rules) request => return Report.checked (.parse rules) request.context
  | .check none request => do
      return Report.checked (.parse (← reading (·.rules))) request.context
  | .exec source request => do
      let script ← liftExcept (content setting source)
      let result := Sandbox.executeFor setting.engine setting.limits script request.context
      match result.error with
      | some message => throw (.scriptFailed message)
      | none => return result.markup
  | .setGlobal kind source => put setting ⟨.global, kind⟩ source
  | .setResource id source => put setting ⟨.resource id, .serverScript⟩ source
  | .setRules text => do
      modify (·.setRules text)
      return Report.storedRules text
  | .clearGlobal kind => do
      return Report.cleared (Report.globalLabel kind) (← clear ⟨.global, kind⟩)
  | .clearResource id => do
      return Report.clearedResource id (← clear ⟨.resource id, .serverScript⟩)
  | .clearRules => do
      let text ← reading (·.rules)
      modify (·.setRules "")
      return Report.cleared "condition rules" (!text.isEmpty)
  | .list format => do
      let records ← reading (·.list)
      liftExcept (listAs records format)

/-- The answer of a command, and the database after it. -/
def outcome (setting : CommandSetting) (command : Command) (database : Database) :
    Except CommandFault String × Database :=
  (command.execute setting).run database

end Command

end PageInjection
