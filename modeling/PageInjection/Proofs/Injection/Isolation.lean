import PageInjection.Proofs.Injection.Footer
import PageInjection.Proofs.Store.Slots

/-!
# Fragments of the footer do not disturb each other

What one fragment leaves in the footer stands at its own place.  A change of that
fragment alone, to a script that fails, to nothing, or to something that cannot be
read, leaves the markup and the errors around the place as they are.
-/

namespace PageInjection

/-- Two sources answer alike, except perhaps to one sort of read. -/
structure FragmentSource.AgreesExcept (source : FragmentSource) (read : StoreRead)
    (other : FragmentSource) : Prop where
  rules : read ≠ .rules → source.rules = other.rules
  global : ∀ kind, read ≠ .global kind → source.global kind = other.global kind
  resource : read ≠ .resource → source.resource = other.resource

theorem FragmentSource.AgreesExcept.refl (source : FragmentSource) (read : StoreRead) :
    source.AgreesExcept read source :=
  ⟨fun _ => rfl, fun _ _ => rfl, fun _ => rfl⟩

/-- Any bytes under the key of a global fragment change the answer about that
fragment alone. -/
theorem Database.source_insert_agreesExcept (database : Database) (kind : FragmentKind)
    (bytes : List UInt8) :
    (database.insert (Slot.key ⟨.global, kind⟩) bytes).source.AgreesExcept (.global kind)
      database.source where
  rules _ := by
    apply rules_congr
    rw [get?_insert, if_neg (Slot.key_ne_rulesKey _).symm]
  global other different := by
    have otherKey : Slot.key ⟨.global, other⟩ ≠ Slot.key ⟨.global, kind⟩ := by
      intro same
      have sameKind : other = kind := congrArg Slot.kind (Slot.key_inj.mp same)
      exact different (by rw [sameKind])
    apply read_congr
    rw [get?_insert, if_neg otherKey]
  resource _ := by
    funext id
    have otherKey : Slot.key ⟨.resource id, .serverScript⟩ ≠ Slot.key ⟨.global, kind⟩ := by
      intro same
      exact absurd (congrArg Slot.scope (Slot.key_inj.mp same)) (by simp)
    apply read_congr
    rw [get?_insert, if_neg otherKey]

namespace Injection

variable {injection : Injection} {source : FragmentSource} (context : RequestContext)

/-! ## What each part looks at -/

theorem gate_congr (rules : source.rules = injection.source.rules) :
    ({ injection with source } : Injection).gate context = injection.gate context := by
  simp only [gate, ruleText, rules]

theorem globalFragment_congr {kind : FragmentKind}
    (same : source.global kind = injection.source.global kind) :
    ({ injection with source } : Injection).globalFragment kind =
      injection.globalFragment kind := by
  simp only [globalFragment, same]

theorem resourceFragment_congr {id : ResourceId}
    (same : source.resource id = injection.source.resource id) :
    ({ injection with source } : Injection).resourceFragment id =
      injection.resourceFragment id := by
  simp only [resourceFragment, same]

theorem clientPart_congr (rules : source.rules = injection.source.rules)
    (client : source.global .clientScript = injection.source.global .clientScript) :
    ({ injection with source } : Injection).clientPart context = injection.clientPart context := by
  unfold clientPart
  rw [gate_congr context rules, globalFragment_congr client]

theorem globalScriptPart_congr (rules : source.rules = injection.source.rules)
    (server : source.global .serverScript = injection.source.global .serverScript) :
    ({ injection with source } : Injection).globalScriptPart context =
      injection.globalScriptPart context := by
  unfold globalScriptPart
  rw [gate_congr context rules, globalFragment_congr server]
  rfl

theorem resourceFooter_congr (resource : source.resource = injection.source.resource) :
    ({ injection with source } : Injection).resourceFooter context =
      injection.resourceFooter context := by
  unfold resourceFooter
  split
  · rw [resourceFragment_congr (congrFun resource _)]
    rfl
  · rfl

/-! ## The errors of a part -/

theorem errors_clientPart (injection : Injection) (context : RequestContext) :
    (injection.clientPart context).errors = [] := by
  unfold clientPart RenderedPoint.ofBlock
  split
  · split <;> rfl
  · rfl

theorem length_errors_script_le (injection : Injection) (fragment : Fragment)
    (context : RequestContext) : (injection.script fragment context).errors.length ≤ 1 :=
  Option.length_toList_le

theorem length_errors_globalScriptPart_le (injection : Injection) (context : RequestContext) :
    (injection.globalScriptPart context).errors.length ≤ 1 := by
  unfold globalScriptPart
  split
  · exact length_errors_script_le _ _ _
  · exact Nat.zero_le 1

theorem length_errors_resourceFooter_le (injection : Injection) (context : RequestContext) :
    (injection.resourceFooter context).errors.length ≤ 1 := by
  unfold resourceFooter
  split
  · exact length_errors_script_le _ _ _
  · exact Nat.zero_le 1

/-! ## The footer around a part -/

/-- The footer is the markup of its three parts in order, with the errors of its
two scripts. -/
theorem footer_eq_mk (injection : Injection) (context : RequestContext) :
    injection.footer context =
      ⟨(injection.clientPart context).markup ++ (injection.globalScriptPart context).markup ++
          (injection.resourceFooter context).markup,
        (injection.globalScriptPart context).errors ++
          (injection.resourceFooter context).errors⟩ := by
  have noErrors := errors_clientPart injection context
  rw [footer_eq_parts]
  change RenderedPoint.mk _ _ = _
  rw [RenderedPoint.markup_append, RenderedPoint.errors_append, noErrors, List.nil_append]

/-- A change of one fragment of the footer changes the footer at the place of that
fragment: what stands before and behind it, and the errors of the other fragments,
are the same for all sources that answer alike otherwise. -/
theorem footer_isolates_fragments (injection : Injection) (context : RequestContext) :
    (∃ (before after : String) (errors : List String), ∀ source : FragmentSource,
      source.AgreesExcept (.global .serverScript) injection.source →
        let part := ({ injection with source } : Injection).globalScriptPart context
        ({ injection with source } : Injection).footer context =
            ⟨before ++ part.markup ++ after, part.errors ++ errors⟩ ∧
          part.errors.length ≤ 1) ∧
    (∃ (before : String) (errors : List String), ∀ source : FragmentSource,
      source.AgreesExcept .resource injection.source →
        let part := ({ injection with source } : Injection).resourceFooter context
        ({ injection with source } : Injection).footer context =
            ⟨before ++ part.markup, errors ++ part.errors⟩ ∧
          part.errors.length ≤ 1) ∧
    ∃ (after : String) (errors : List String), ∀ source : FragmentSource,
      source.AgreesExcept (.global .clientScript) injection.source →
        let part := ({ injection with source } : Injection).clientPart context
        ({ injection with source } : Injection).footer context =
            ⟨part.markup ++ after, errors⟩ ∧
          part.errors = [] := by
  let client := injection.clientPart context
  let server := injection.globalScriptPart context
  let resource := injection.resourceFooter context
  -- each part looks at the rules and its own fragment, so the two others stand still
  refine ⟨⟨client.markup, resource.markup, resource.errors, ?_⟩,
    ⟨client.markup ++ server.markup, server.errors, ?_⟩,
    ⟨server.markup ++ resource.markup, server.errors ++ resource.errors, ?_⟩⟩
  · intro source agrees part
    have sameClient := clientPart_congr context (agrees.rules (by decide))
      (agrees.global .clientScript (by decide))
    have sameResource := resourceFooter_congr context (agrees.resource (by decide))
    refine ⟨?_, length_errors_globalScriptPart_le _ _⟩
    rw [footer_eq_mk, sameClient, sameResource]
  · intro source agrees part
    have sameClient := clientPart_congr context (agrees.rules (by decide))
      (agrees.global .clientScript (by decide))
    have sameServer := globalScriptPart_congr context (agrees.rules (by decide))
      (agrees.global .serverScript (by decide))
    refine ⟨?_, length_errors_resourceFooter_le _ _⟩
    rw [footer_eq_mk, sameClient, sameServer]
  · intro source agrees part
    have sameServer := globalScriptPart_congr context (agrees.rules (by decide))
      (agrees.global .serverScript (by decide))
    have sameResource := resourceFooter_congr context (agrees.resource (by decide))
    refine ⟨?_, errors_clientPart _ _⟩
    rw [footer_eq_mk, sameServer, sameResource, String.append_assoc]

/-- A global script that throws, and then bytes that are no record in its place:
the client script and the script of the page stay where they are. -/
theorem footer_isolates_thrown_and_unreadable_script :
    let database := ((((Database.empty.setRules "all").setGlobal 1 .clientScript "go();").setGlobal
      2 .serverScript "echo(\"half\"); throw \"broken\";").setResource 3 4 "echo(\"[page]\");")
    let unreadable := database.insert (Slot.key ⟨.global, .serverScript⟩) [0xFF]
    let context : RequestContext := { isSingular := true, resourceId := some 4 }
    ∃ (before after : String) (errors : List String),
      ({ source := database.source } : Injection).footer context =
          ⟨before ++ "<!-- Global script error: broken -->" ++ after, "broken" :: errors⟩ ∧
        ({ source := unreadable.source } : Injection).footer context =
          ⟨before ++ "" ++ after, errors⟩ := by
  intro database unreadable context
  let injection : Injection := { source := database.source }
  obtain ⟨before, after, errors, around⟩ := (footer_isolates_fragments injection context).1
  have thrown : injection.globalScriptPart context =
      ⟨"<!-- Global script error: broken -->", ["broken"]⟩ := by decide +kernel
  have unset : ({ injection with source := unreadable.source } : Injection).globalScriptPart
      context = {} := by decide +kernel
  have first := (around database.source (.refl _ _)).1
  have second := (around unreadable.source
    (database.source_insert_agreesExcept .serverScript [0xFF])).1
  rw [thrown] at first
  rw [unset] at second
  exact ⟨before, after, errors, first, second⟩

end Injection

end PageInjection
