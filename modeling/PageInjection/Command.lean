import PageInjection.Request

/-!
# Commands

What an operator can ask for: render or check a simulated request, run a script,
change the stored fragments and rules, and list them.
-/

namespace PageInjection

/-- The request a command simulates, as it was described. -/
structure RequestFlags where
  resourceId : Option ResourceId := none
  slug : Option String := none
  title : Option String := none
  type : Option ResourceType := none
  categories : List String := []
  isSingular : Bool := false
  isAdmin : Bool := false
deriving DecidableEq, Repr

namespace RequestFlags

def settings (flags : RequestFlags) : List RequestSetting :=
  [.admin flags.isAdmin, .singular flags.isSingular, .categories flags.categories] ++
    (flags.resourceId.map RequestSetting.resourceId).toList ++
    (flags.slug.map RequestSetting.slug).toList ++
    (flags.title.map RequestSetting.title).toList ++
    (flags.type.map RequestSetting.type).toList

def context (flags : RequestFlags) : RequestContext :=
  .build flags.settings

end RequestFlags

/-- What is said about the text of a fragment. -/
structure ContentDraft where
  file : Option String := none
  content : Option String := none
deriving DecidableEq, Repr

/-- Where the text of a fragment is taken from. -/
inductive ContentSource where
  | file (path : String)
  | inline (text : String)
deriving DecidableEq, Repr

/-- What is said when a source is named, and nothing else. -/
def ContentSource.draft : ContentSource → ContentDraft
  | .file path => { file := some path }
  | .inline text => { content := some text }

/-- A command. -/
inductive Command where
  | render (point : LifecyclePoint) (showErrors : Bool) (request : RequestFlags)
  | check (rules : Option String) (request : RequestFlags)
  | exec (source : ContentSource) (request : RequestFlags)
  | setGlobal (kind : FragmentKind) (source : ContentSource)
  | setResource (id : ResourceId) (source : ContentSource)
  | setRules (text : String)
  | clearGlobal (kind : FragmentKind)
  | clearResource (id : ResourceId)
  | clearRules
  | list (format : String)
deriving DecidableEq, Repr

namespace Command

/-- The word for a kind of global fragment in commands. -/
def kindWord : FragmentKind → String
  | .style => "style"
  | .clientScript => "script"
  | .serverScript => "server"

def name : Command → String
  | .render _ _ _ => "render"
  | .check _ _ => "check"
  | .exec _ _ => "exec"
  | .setGlobal kind _ => "set." ++ kindWord kind
  | .setResource _ _ => "set.resource"
  | .setRules _ => "set.rules"
  | .clearGlobal kind => "clear." ++ kindWord kind
  | .clearResource _ => "clear.resource"
  | .clearRules => "clear.rules"
  | .list _ => "list"

/-- Where a command takes a text from, if it needs one. -/
def source? : Command → Option ContentSource
  | .exec source _ => some source
  | .setGlobal _ source => some source
  | .setResource _ source => some source
  | _ => none

end Command

/-- What a command line asks for: a command, the place it works in, and how it is
logged. -/
structure Invocation where
  command : Command
  workspace : String := "."
  configFile : Option String := none
  store : Option String := none
  isVerbose : Bool := false
  isQuiet : Bool := false
  logLevel : Option String := none
  logFormat : Option String := none
  logOutput : Option String := none
  logFile : Option String := none
deriving DecidableEq, Repr

end PageInjection
