import PageInjection.Request
import PageInjection.Json.Decode

/-!
# Requests as JSON

The object form of a request context and of the two small word types, and the
readers that take them back.
-/

namespace PageInjection

namespace ResourceType

def ofJson : Json.Decoder ResourceType :=
  Json.toWord [("page", .page), ("post", .post), ("other", .other)]

end ResourceType

namespace LifecyclePoint

def ofJson : Json.Decoder LifecyclePoint :=
  Json.toWord [("head", .head), ("footer", .footer)]

end LifecyclePoint

namespace RequestContext

def toJson (context : RequestContext) : Json :=
  .object [
    ("category_slugs", .ofTexts context.categories),
    ("is_admin", .bool context.isAdmin),
    ("is_singular", .bool context.isSingular),
    ("resource_id", .ofId? context.resourceId),
    ("resource_slug", .ofText? context.slug),
    ("resource_title", .ofText? context.title),
    ("resource_type", .ofText? (context.type.map ResourceType.name))]

/-- A context whose fields are being read. -/
structure Draft where
  isAdmin : Option Bool := none
  isSingular : Option Bool := none
  resourceId : Option ResourceId := none
  slug : Option String := none
  title : Option String := none
  type : Option ResourceType := none
  categories : Option (List String) := none

/-- How a context is read: the optional fields may be missing. -/
def shape : Json.RecordShape Draft RequestContext where
  name := "RequestContext"
  fields := ["is_admin", "is_singular", "resource_id", "resource_slug", "resource_title",
    "resource_type", "category_slugs"]
  draft := {}
  set draft name value :=
    match name with
    | "is_admin" => do return { draft with isAdmin := some (← Json.toBool value) }
    | "is_singular" => do return { draft with isSingular := some (← Json.toBool value) }
    | "resource_id" => do
        return { draft with resourceId := ← Json.toOption (Json.toUInt64 "u64") value }
    | "resource_slug" => do
      return { draft with slug := ← Json.toOption (Json.toText "a string") value }
    | "resource_title" => do
      return { draft with title := ← Json.toOption (Json.toText "a string") value }
    | "resource_type" => do return { draft with type := ← Json.toOption ResourceType.ofJson value }
    | "category_slugs" => do return { draft with categories := some (← Json.toTexts value) }
    | _ => .ok draft
  finish draft := do
    let isAdmin ← Json.require "is_admin" draft.isAdmin
    let isSingular ← Json.require "is_singular" draft.isSingular
    let categories ← Json.require "category_slugs" draft.categories
    return {
      isAdmin, isSingular
      resourceId := draft.resourceId
      slug := draft.slug
      title := draft.title
      type := draft.type
      categories := categories.foldl (fun sorted slug => insertSlug slug sorted) [] }
  hasDefaults := false

def ofJson : Json.Decoder RequestContext := shape.decode

end RequestContext

end PageInjection
