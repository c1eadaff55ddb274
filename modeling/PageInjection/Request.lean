import PageInjection.Fragment
import PageInjection.Text.Utf8

/-!
# The request at hand

What rules and scripts may know about a page request.  A context is built by a
sequence of settings; for each single-valued field the last setting wins, and
categories accumulate in a list sorted by bytes.
-/

namespace PageInjection

/-- The type of the resource a request is for. -/
inductive ResourceType where
  | page
  | post
  | other
deriving DecidableEq, Repr

namespace ResourceType

def name : ResourceType → String
  | .page => "page"
  | .post => "post"
  | .other => "other"

def ofWord? (word : String) : Option ResourceType :=
  if word = "page" then some .page
  else if word = "post" then some .post
  else if word = "other" then some .other
  else none

/-- The refusal of a word that names no type. -/
def unknownWord (word : String) : String :=
  "Invalid resource type: " ++ word ++ " (must be 'page', 'post', or 'other')"

@[simp] theorem ofWord?_name (type : ResourceType) : ofWord? type.name = some type := by
  cases type <;> decide

end ResourceType

/-- Put a slug in its place in a list sorted by bytes, unless it is there. -/
def insertSlug (slug : String) : List String → List String
  | [] => [slug]
  | head :: tail =>
      if slug = head then head :: tail
      else if Text.byteLt slug head then slug :: head :: tail
      else head :: insertSlug slug tail

/-- What is known about a request. -/
structure RequestContext where
  isAdmin : Bool := false
  isSingular : Bool := false
  resourceId : Option ResourceId := none
  slug : Option String := none
  title : Option String := none
  type : Option ResourceType := none
  categories : List String := []
deriving DecidableEq, Repr

/-- One step in describing a request. -/
inductive RequestSetting where
  | admin (value : Bool)
  | singular (value : Bool)
  | resourceId (id : ResourceId)
  | slug (text : String)
  | title (text : String)
  | type (value : ResourceType)
  | category (slug : String)
  | categories (slugs : List String)
deriving DecidableEq, Repr

namespace RequestContext

/-- A visitor's request that is for no single resource. -/
def frontEnd : RequestContext := {}

def addCategory (context : RequestContext) (slug : String) : RequestContext :=
  { context with categories := insertSlug slug context.categories }

def apply (context : RequestContext) : RequestSetting → RequestContext
  | .admin value => { context with isAdmin := value }
  | .singular value => { context with isSingular := value }
  | .resourceId id => { context with resourceId := some id }
  | .slug text => { context with slug := some text }
  | .title text => { context with title := some text }
  | .type value => { context with type := some value }
  | .category slug => context.addCategory slug
  | .categories slugs => slugs.foldl addCategory context

/-- The context described by a sequence of settings. -/
def build (settings : List RequestSetting) : RequestContext :=
  settings.foldl apply {}

/-- Whether the current resource is in a category. -/
def inCategory (context : RequestContext) (slug : String) : Bool :=
  context.categories.contains slug

/-- The id of the current resource, only for a request that is for one. -/
def singularResourceId (context : RequestContext) : Option ResourceId :=
  if context.isSingular then context.resourceId else none

/-- Whether the current resource is a page or a post. -/
def isPageOrPost (context : RequestContext) : Bool :=
  context.isSingular && (context.type == some .page || context.type == some .post)

end RequestContext

/-- The two places of a page where fragments are emitted. -/
inductive LifecyclePoint where
  | head
  | footer
deriving DecidableEq, Repr

namespace LifecyclePoint

def name : LifecyclePoint → String
  | .head => "head"
  | .footer => "footer"

def ofWord? (word : String) : Option LifecyclePoint :=
  if word = "head" then some .head
  else if word = "footer" then some .footer
  else none

/-- The refusal of a word that names no point. -/
def unknownWord (word : String) : String :=
  "Invalid lifecycle point: " ++ word ++ " (must be 'head' or 'footer')"

end LifecyclePoint

end PageInjection
