import PageInjection.Fragment
import PageInjection.Json.Decode

/-!
# Fragments as JSON

Each form is written by `toJson` and read by `ofJson`, which also takes the
fields in any order or as a list.
-/

namespace PageInjection

namespace FragmentKind

def words : List (String × FragmentKind) :=
  [("style", .style), ("client_script", .clientScript), ("server_script", .serverScript)]

def ofJson : Json.Decoder FragmentKind :=
  Json.toWord words

end FragmentKind

namespace Scope

/-- The word of the global scope, or the id under the word for resources. -/
def toJson : Scope → Json
  | .global => .text "Global"
  | .resource id => .object [("Resource", .integer id.toNat)]

def ofJson : Json.Decoder Scope :=
  Json.toVariant ["Global", "Resource"] fun word content =>
    if word = "Global" then do
      if let some content := content then Json.toNothing content
      return .global
    else
      match content with
      | none => throw (.wrongType "unit variant" "newtype variant")
      | some content => do return .resource (← Json.toUInt64 "u64" content)

end Scope

namespace Fragment

def toJson (fragment : Fragment) : Json :=
  .object [("content", .text fragment.content), ("kind", .text fragment.kind.name),
    ("scope", fragment.scope.toJson)]

/-- A fragment whose fields are being read. -/
structure Draft where
  kind : Option FragmentKind := none
  scope : Option Scope := none
  content : Option String := none

def shape : Json.RecordShape Draft Fragment where
  name := "CodeFragment"
  fields := ["kind", "scope", "content"]
  draft := {}
  set draft name value :=
    match name with
    | "kind" => do return { draft with kind := some (← FragmentKind.ofJson value) }
    | "scope" => do return { draft with scope := some (← Scope.ofJson value) }
    | "content" => do return { draft with content := some (← Json.toText "a string" value) }
    | _ => .ok draft
  finish draft := do
    return ⟨← Json.require "kind" draft.kind, ← Json.require "scope" draft.scope,
      ← Json.require "content" draft.content⟩
  hasDefaults := false

def ofJson : Json.Decoder Fragment := shape.decode

end Fragment

namespace StoredFragment

def toJson (stored : StoredFragment) : Json :=
  .object [("fragment", stored.fragment.toJson), ("updated_at_ms", .integer stored.updatedAt.toInt)]

/-- A stored fragment whose fields are being read. -/
structure Draft where
  fragment : Option Fragment := none
  updatedAt : Option Int64 := none

def shape : Json.RecordShape Draft StoredFragment where
  name := "StoredFragment"
  fields := ["fragment", "updated_at_ms"]
  draft := {}
  set draft name value :=
    match name with
    | "fragment" => do return { draft with fragment := some (← Fragment.ofJson value) }
    | "updated_at_ms" => do return { draft with updatedAt := some (← Json.toInt64 value) }
    | _ => .ok draft
  finish draft := do
    return ⟨← Json.require "fragment" draft.fragment,
      ← Json.require "updated_at_ms" draft.updatedAt⟩
  hasDefaults := false

def ofJson : Json.Decoder StoredFragment := shape.decode

end StoredFragment

end PageInjection
