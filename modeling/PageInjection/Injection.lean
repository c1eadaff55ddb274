import PageInjection.Rule
import PageInjection.Sandbox
import PageInjection.Store

/-!
# Injection

What is spliced into a page at its head and its footer.  Global fragments pass
only through the rule gate; the script of a resource passes on every request
that is for that resource.  A store that cannot be read counts as empty, and a
script that fails leaves a comment and an error, nothing else.
-/

namespace PageInjection

/-- What is emitted at a point, with the errors of the scripts that failed. -/
structure RenderedPoint where
  markup : String := ""
  errors : List String := []
deriving DecidableEq, Repr

namespace RenderedPoint

def append (first second : RenderedPoint) : RenderedPoint :=
  ⟨first.markup ++ second.markup, first.errors ++ second.errors⟩

instance : Append RenderedPoint := ⟨append⟩

def ofResult (result : InjectionResult) : RenderedPoint :=
  ⟨result.markup, result.error.toList⟩

/-- The part of a block that is left out when it is empty. -/
def ofBlock (block : String → String) (content : String) : RenderedPoint :=
  if content.isEmpty then {} else { markup := block content }

end RenderedPoint

/-- An engine with its limits, and the store that is read. -/
structure Injection where
  engine : Engine := .standard
  limits : Limits := {}
  source : FragmentSource

namespace Injection

/-- The rule text, empty when it cannot be read. -/
def ruleText (injection : Injection) : String :=
  injection.source.rules.toOption.getD ""

def gate (injection : Injection) (context : RequestContext) : Bool :=
  shouldInject injection.ruleText context

/-- A global fragment, unset when it cannot be read. -/
def globalFragment (injection : Injection) (kind : FragmentKind) : Fragment :=
  (injection.source.global kind).toOption.getD (.unset ⟨.global, kind⟩)

/-- The script of a resource, unset when it cannot be read. -/
def resourceFragment (injection : Injection) (id : ResourceId) : Fragment :=
  (injection.source.resource id).toOption.getD (.unset ⟨.resource id, .serverScript⟩)

def script (injection : Injection) (fragment : Fragment) (context : RequestContext) :
    RenderedPoint :=
  .ofResult (Sandbox.executeFragment injection.engine injection.limits fragment context)

/-- The head: the global style. -/
def head (injection : Injection) (context : RequestContext) : RenderedPoint :=
  if injection.gate context then
    .ofBlock Markup.styleBlock (injection.globalFragment .style).content
  else {}

/-- The global part of the footer: the client script, then the server script. -/
def globalFooter (injection : Injection) (context : RequestContext) : RenderedPoint :=
  if injection.gate context then
    .ofBlock Markup.scriptBlock (injection.globalFragment .clientScript).content ++
      injection.script (injection.globalFragment .serverScript) context
  else {}

/-- The part of the footer that belongs to the current resource. -/
def resourceFooter (injection : Injection) (context : RequestContext) : RenderedPoint :=
  match context.singularResourceId with
  | some id => injection.script (injection.resourceFragment id) context
  | none => {}

def footer (injection : Injection) (context : RequestContext) : RenderedPoint :=
  injection.globalFooter context ++ injection.resourceFooter context

def render (injection : Injection) (context : RequestContext) : LifecyclePoint → RenderedPoint
  | .head => injection.head context
  | .footer => injection.footer context

end Injection

end PageInjection
