import PageInjection.Proofs.Injection.Footer
import PageInjection.Proofs.Rule.Grammar
import PageInjection.Store.Memory

/-!
# A closed gate leaks nothing

The gate is closed to admin requests, to requests that no rule fits, and to all
requests when the rules cannot be read.  Behind a closed gate nothing is seen of the
global fragments: what is emitted depends on the script of the resource alone.
-/

namespace PageInjection

/-- The reasons for which the gate of a source is closed to a request. -/
inductive FragmentSource.IsClosedTo (source : FragmentSource) (context : RequestContext) :
    Prop where
  | admin : context.isAdmin = true → IsClosedTo source context
  | unmatched {text : String} : source.rules = .ok text →
      (∀ token, IsRuleToken text.toList token → ¬ TokenFits context token) →
      IsClosedTo source context
  | unreadable {fault : StoreFault} : source.rules = .error fault → IsClosedTo source context

/-- Two sources have the same script for the resource of a request, if the request is
for one; a script that cannot be read is no script.  The same script is the same fragment
with its label; records that have the text in common but not the label are left out, and no
change of a store leads to them. -/
def FragmentSource.SharesScript (source other : FragmentSource) (context : RequestContext) :
    Prop :=
  ∀ id, context.singularResourceId = some id →
    (source.resource id).toOption.getD (.unset ⟨.resource id, .serverScript⟩) =
      (other.resource id).toOption.getD (.unset ⟨.resource id, .serverScript⟩)

theorem shouldInject_eq_false_iff {text : String} {context : RequestContext} :
    shouldInject text context = false ↔ context.isAdmin = true ∨
      ∀ token, IsRuleToken text.toList token → ¬ TokenFits context token := by
  have fits := RuleSet.fits_parse_iff text context
  unfold shouldInject
  cases admin : context.isAdmin with
  | true => simp
  | false =>
      rw [admin] at fits
      rw [Bool.not_false, Bool.true_and, ← Bool.not_eq_true, fits]
      simp

theorem RequestContext.singularResourceId_eq_none_iff {context : RequestContext} :
    context.singularResourceId = none ↔
      context.isSingular = false ∨ context.resourceId = none := by
  unfold singularResourceId
  cases context.isSingular <;> simp

namespace Injection

variable (injection : Injection) {context : RequestContext}

theorem gate_eq_false_iff :
    injection.gate context = false ↔ injection.source.IsClosedTo context := by
  unfold gate ruleText
  constructor
  · intro closed
    cases rules : injection.source.rules with
    | error fault => exact .unreadable rules
    | ok text =>
        rw [rules] at closed
        rcases shouldInject_eq_false_iff.mp closed with admin | unmatched
        · exact .admin admin
        · exact .unmatched rules unmatched
  · intro closed
    apply shouldInject_eq_false_iff.mpr
    cases closed with
    | admin isAdmin => exact .inl isAdmin
    | unmatched rules noFit =>
        rw [rules]
        exact .inr noFit
    | unreadable rules =>
        rw [rules]
        apply Or.inr
        intro token member
        have inTokens := RuleSet.mem_tokens_iff.mpr member
        cases inTokens

theorem head_of_closed (closed : injection.gate context = false) :
    injection.head context = {} := by
  unfold head
  rw [closed]
  rfl

theorem globalFooter_of_closed (closed : injection.gate context = false) :
    injection.globalFooter context = {} := by
  unfold globalFooter
  rw [closed]
  rfl

theorem footer_of_closed (closed : injection.gate context = false) :
    injection.footer context = injection.resourceFooter context := by
  unfold footer
  rw [injection.globalFooter_of_closed closed, RenderedPoint.empty_append]

/-- Of a store the part of the resource shows nothing but the script. -/
theorem resourceFooter_eq_of_sharesScript {other : FragmentSource}
    (shares : injection.source.SharesScript other context) :
    ({ injection with source := other } : Injection).resourceFooter context =
      injection.resourceFooter context := by
  cases resource : context.singularResourceId with
  | none => rw [resourceFooter_of_none resource, resourceFooter_of_none resource]
  | some id =>
      have same : ({ injection with source := other } : Injection).resourceFragment id =
          injection.resourceFragment id := (shares id resource).symm
      rw [resourceFooter_of_some resource, resourceFooter_of_some resource, same]
      rfl

/-- Behind closed gates two stores with the same script for the resource of a request
cannot be told apart, whatever else is in them and whatever closes the gates.  An open
gate puts the global part in front of what is seen behind a closed one. -/
theorem closed_gate_leaks_nothing (engine : Engine) (limits : Limits)
    (context : RequestContext) (left right : FragmentSource)
    (leftClosed : left.IsClosedTo context) (rightClosed : right.IsClosedTo context)
    (shares : left.SharesScript right context) :
    let injected (source : FragmentSource) : Injection := { engine, limits, source }
    (injected left).render context .head = {} ∧
      (injected right).render context .head = {} ∧
      (injected left).render context .footer = (injected right).render context .footer ∧
      (context.isSingular = false ∨ context.resourceId = none →
        (injected left).render context .footer = {} ∧
          (injected right).render context .footer = {}) ∧
      ∀ opened : FragmentSource, left.SharesScript opened context →
        (injected opened).render context .footer =
          (injected opened).globalFooter context ++ (injected left).render context .footer := by
  intro injected
  have leftGate := (injected left).gate_eq_false_iff.mpr leftClosed
  have rightGate := (injected right).gate_eq_false_iff.mpr rightClosed
  have leftFooter : (injected left).render context .footer =
      (injected left).resourceFooter context := (injected left).footer_of_closed leftGate
  have rightFooter : (injected right).render context .footer =
      (injected right).resourceFooter context := (injected right).footer_of_closed rightGate
  have sameFooter : (injected right).resourceFooter context =
      (injected left).resourceFooter context :=
    (injected left).resourceFooter_eq_of_sharesScript shares
  refine ⟨(injected left).head_of_closed leftGate, (injected right).head_of_closed rightGate,
    ?_, ?_, ?_⟩
  · rw [leftFooter, rightFooter, sameFooter]
  · intro noResource
    have none := RequestContext.singularResourceId_eq_none_iff.mpr noResource
    rw [leftFooter, rightFooter]
    exact ⟨resourceFooter_of_none none, resourceFooter_of_none none⟩
  · intro opened sharesOpened
    have sameResource : (injected opened).resourceFooter context =
        (injected left).resourceFooter context :=
      (injected left).resourceFooter_eq_of_sharesScript sharesOpened
    rw [leftFooter, ← sameResource]
    rfl

/-- One store has rules for another page and a client script, the other cannot read its
rules and has a global script; both footers are what the script of the page prints. -/
theorem closed_gates_of_unmatched_and_unreadable_rules :
    let left := (((MemoryStore.empty.setRules "post-99").setGlobal .clientScript
      "go();").setResource 4 "echo(\"[page]\");").source
    let right := (((MemoryStore.empty.setRules "all").setGlobal .serverScript
      "echo(\"[global]\");").setResource 4 "echo(\"[page]\");").source.failing [.rules]
        (.backend "disk gone")
    let context : RequestContext := { isSingular := true, resourceId := some 4 }
    left.IsClosedTo context ∧ right.IsClosedTo context ∧ left.SharesScript right context ∧
      ({ source := left } : Injection).render context .footer = ⟨"[page]", []⟩ ∧
      ({ source := right } : Injection).render context .footer = ⟨"[page]", []⟩ := by
  intro left right context
  have leftClosed : left.IsClosedTo context :=
    ({ source := left } : Injection).gate_eq_false_iff.mp (by decide +kernel)
  have unreadable : right.rules = .error (.backend "disk gone") := rfl
  have rightClosed : right.IsClosedTo context := .unreadable unreadable
  have shares : left.SharesScript right context := by
    intro id resource
    obtain rfl := Option.some.inj resource
    rfl
  obtain ⟨_, _, same, _⟩ :=
    closed_gate_leaks_nothing .standard {} context left right leftClosed rightClosed shares
  have shown : ({ source := left } : Injection).render context .footer = ⟨"[page]", []⟩ := by
    decide +kernel
  exact ⟨leftClosed, rightClosed, shares, shown, same.symm.trans shown⟩

end Injection

end PageInjection
