import PageInjection.Injection

/-!
# The parts of the footer

The footer is the client script's block, then what the global server script
leaves, then what the script of the resource leaves.
-/

namespace PageInjection

namespace RenderedPoint

@[simp] theorem markup_append (first second : RenderedPoint) :
    (first ++ second).markup = first.markup ++ second.markup := rfl

@[simp] theorem errors_append (first second : RenderedPoint) :
    (first ++ second).errors = first.errors ++ second.errors := rfl

@[simp] theorem append_empty (part : RenderedPoint) : part ++ {} = part := by
  change RenderedPoint.append part {} = part
  simp [RenderedPoint.append]

@[simp] theorem empty_append (part : RenderedPoint) : {} ++ part = part := by
  change RenderedPoint.append {} part = part
  simp [RenderedPoint.append]

end RenderedPoint

namespace Injection

/-- The part of the footer that the client script leaves. -/
def clientPart (injection : Injection) (context : RequestContext) : RenderedPoint :=
  if injection.gate context then
    .ofBlock Markup.scriptBlock (injection.globalFragment .clientScript).content
  else {}

/-- The part of the footer that the global server script leaves. -/
def globalScriptPart (injection : Injection) (context : RequestContext) :
    RenderedPoint :=
  if injection.gate context then
    injection.script (injection.globalFragment .serverScript) context
  else {}

theorem footer_eq_parts (injection : Injection) (context : RequestContext) :
    injection.footer context =
      injection.clientPart context ++ injection.globalScriptPart context ++
        injection.resourceFooter context := by
  unfold footer globalFooter clientPart globalScriptPart
  split
  · rfl
  · rw [RenderedPoint.append_empty]

section Parts

variable {injection : Injection} {context : RequestContext}

theorem resourceFooter_of_some {id : ResourceId} (resource : context.singularResourceId = some id) :
    injection.resourceFooter context =
      injection.script (injection.resourceFragment id) context := by
  unfold resourceFooter
  rw [resource]

theorem resourceFooter_of_none (noResource : context.singularResourceId = none) :
    injection.resourceFooter context = {} := by
  unfold resourceFooter
  rw [noResource]

/-! ## Parts without a script -/

theorem script_of_isEmpty {fragment : Fragment} (unset : fragment.content = "") :
    injection.script fragment context = {} := by
  unfold script Sandbox.executeFragment Sandbox.run
  rw [unset]
  rfl

theorem resourceFooter_of_isEmpty
    (unset : ∀ id, context.singularResourceId = some id →
      (injection.resourceFragment id).content = "") :
    injection.resourceFooter context = {} := by
  cases resource : context.singularResourceId with
  | none => exact resourceFooter_of_none resource
  | some id =>
      rw [resourceFooter_of_some resource]
      exact script_of_isEmpty (unset id resource)

/-- With nothing but a global server script the footer is what the script leaves. -/
theorem footer_of_only_globalScript (passes : injection.gate context = true)
    (noClient : (injection.globalFragment .clientScript).content = "")
    (noResource : ∀ id, context.singularResourceId = some id →
      (injection.resourceFragment id).content = "") :
    injection.footer context =
      injection.script (injection.globalFragment .serverScript) context := by
  unfold footer globalFooter
  rw [if_pos passes, resourceFooter_of_isEmpty noResource, RenderedPoint.append_empty, noClient]
  exact RenderedPoint.empty_append _

end Parts

end Injection

end PageInjection
