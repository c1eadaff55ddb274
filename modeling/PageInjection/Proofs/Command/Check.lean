import PageInjection.Proofs.Command.Outcome
import PageInjection.Proofs.Rule.FirstMatch

/-!
# A check reports what rendering does

The report of a check ends with the token of the first rule that fits, or says that
there is none.  It is the same for a rule text that is given and for one that is
stored, and it agrees with the gate that rendering applies at the head and the
footer.
-/

namespace PageInjection

namespace Report

def EndsWith (text ending : String) : Prop :=
  ending.toList <:+ text.toList

theorem endsWith_append (lead tail : String) : EndsWith (lead ++ tail) tail := by
  unfold EndsWith
  rw [String.toList_append]
  exact List.suffix_append _ _

theorem EndsWith.trans {text middle ending : String} (outer : EndsWith text middle)
    (inner : EndsWith middle ending) : EndsWith text ending :=
  List.IsSuffix.trans inner outer

/-- What is no longer than the tail is an ending of the whole only as one of the tail. -/
theorem not_endsWith_append {lead tail ending : String}
    (short : ending.toList.length ≤ tail.toList.length) (differs : ¬ EndsWith tail ending) :
    ¬ EndsWith (lead ++ tail) ending := by
  intro ends
  exact differs (List.suffix_of_suffix_length_le ends (endsWith_append lead tail) short)

def injected (token : String) : String :=
  "Result: inject (matched '" ++ token ++ "')"

variable {rules : RuleSet} {context : RequestContext}

theorem endsWith_checked_of_some {rule : ConditionRule}
    (matched : rules.firstMatch context = some rule) :
    EndsWith (checked rules context) (injected rule.token) := by
  obtain ⟨notAdmin, found⟩ := RuleSet.firstMatch_eq_some_iff.mp matched
  have notEmpty : rules.rules ≠ [] := List.ne_nil_of_mem (List.mem_of_find?_eq_some found)
  have report : checked rules context =
      "Rules: " ++ ", ".intercalate (rules.rules.map (·.token)) ++ "\nResult: " ++
        ("inject (matched '" ++ rule.token ++ "')") := by
    unfold checked
    rw [if_neg (by simpa using notEmpty), if_neg (by simp [notAdmin]), matched]
  rw [report]
  refine ⟨("Rules: " ++ ", ".intercalate (rules.rules.map (·.token)) ++ "\n").toList, ?_⟩
  unfold injected
  simp

theorem not_endsWith_checked_of_none (unmatched : rules.firstMatch context = none) :
    ¬ EndsWith (checked rules context) "')" := by
  unfold checked
  split
  · unfold EndsWith
    decide
  · split
    · apply not_endsWith_append
      · decide
      · unfold EndsWith
        decide
    · rw [unmatched]
      apply not_endsWith_append
      · decide
      · unfold EndsWith
        decide

/-- A report ends like one of an injection exactly when a rule fits, whatever the
tokens of the rules look like. -/
theorem endsWith_checked_iff :
    EndsWith (checked rules context) "')" ↔ (rules.firstMatch context).isSome = true := by
  cases matched : rules.firstMatch context with
  | none => exact iff_of_false (not_endsWith_checked_of_none matched) (by simp)
  | some rule =>
      refine iff_of_true ?_ rfl
      exact (endsWith_checked_of_some matched).trans (endsWith_append _ _)

end Report

/-- An injection emits the global fragments of the head and the footer if they pass,
and emits none of them if they do not. -/
structure Injection.Applies (injection : Injection) (context : RequestContext)
    (passes : Bool) : Prop where
  gate : injection.gate context = passes
  head : injection.render context .head =
    if passes then .ofBlock Markup.styleBlock (injection.globalFragment .style).content else {}
  footer : injection.render context .footer =
    (if passes then
      .ofBlock Markup.scriptBlock (injection.globalFragment .clientScript).content ++
        injection.script (injection.globalFragment .serverScript) context
    else {}) ++ injection.resourceFooter context

theorem Injection.applies_of_rules {injection : Injection} {text : String}
    (rules : injection.source.rules = .ok text) (context : RequestContext) :
    injection.Applies context (shouldInject text context) := by
  have gate : injection.gate context = shouldInject text context := by
    unfold Injection.gate ruleText
    rw [rules]
    rfl
  refine ⟨gate, ?_, ?_⟩
  · rw [← gate]
    rfl
  · rw [← gate]
    rfl

namespace Command

/-- A rule text is set without a fault, and then a check without rules answers what a
check with that text answers anywhere.  The answer ends as one of an injection exactly
when rendering injects the global fragments, and then with the first token of the text
that fits. -/
theorem check_reports_what_rendering_applies (setting elsewhere : CommandSetting)
    (text : String) (storable : Record.IsStorable text) (request : RequestFlags)
    (database other : Database) :
    let changed := ((Command.setRules text).outcome setting database).2
    let context := request.context
    ((Command.setRules text).outcome setting database).1 = .ok (Report.storedRules text) ∧
    ∃ report,
      ((Command.check none request).outcome setting changed).1 = .ok report ∧
      ((Command.check (some text) request).outcome elsewhere other).1 = .ok report ∧
      (Report.EndsWith report "')" ↔ shouldInject text context = true) ∧
      (∀ engine limits, ({ engine, limits, source := changed.source } : Injection).Applies
        context (shouldInject text context)) ∧
      (shouldInject text context = true → ∃ token,
        IsFirstFit context text.toList token ∧
          Report.EndsWith report
            ("Result: inject (matched '" ++ String.ofList token ++ "')")) := by
  intro changed context
  have stored : changed.rules = .ok text := database.rules_setRules storable
  refine ⟨?_, Report.checked (.parse text) context, ?_, ?_, ?_, ?_, ?_⟩
  · rw [outcome_setRules]
  · rw [outcome_check_stored, stored]
    rfl
  · rw [outcome_check_given]
  · rw [Report.endsWith_checked_iff, shouldInject_eq_isSome_firstMatch]
  · exact fun engine limits => Injection.applies_of_rules stored context
  · intro injects
    rw [shouldInject_eq_isSome_firstMatch, Option.isSome_iff_exists] at injects
    obtain ⟨rule, matched⟩ := injects
    obtain ⟨_, token, firstFit, rfl⟩ := RuleSet.firstMatch_parse_eq_some_iff.mp matched
    have ends := Report.endsWith_checked_of_some matched
    rw [ConditionRule.token_ofToken] at ends
    exact ⟨token, firstFit, ends⟩

/-- A slug that looks like the end of a report is found behind a rule that does not fit,
beside bytes that were no rules before. -/
theorem check_reports_slug_with_quotes :
    let setting : CommandSetting := { readFile := fun _ => .error .missing }
    let text := "post-7, it's')"
    let request : RequestFlags := { slug := some "it's')", isSingular := true }
    let changed := ((Command.setRules text).outcome setting
      (Database.empty.insert rulesKey [0xFF])).2
    Record.IsStorable text ∧ shouldInject text request.context = true ∧
      ∃ report token,
        ((Command.check none request).outcome setting changed).1 = .ok report ∧
        report = "Rules: post-7, it's')\nResult: inject (matched 'it's')')" ∧
        IsFirstFit request.context text.toList token ∧
        Report.EndsWith report ("Result: inject (matched '" ++ String.ofList token ++ "')") := by
  intro setting text request changed
  have storable : Record.IsStorable text := by decide
  have injects : shouldInject text request.context = true := by decide +kernel
  obtain ⟨_, report, stored, given, _, _, ends⟩ :=
    check_reports_what_rendering_applies setting setting text storable request
      (Database.empty.insert rulesKey [0xFF]) .empty
  obtain ⟨token, firstFit, endsWithToken⟩ := ends injects
  have shown : Report.checked (.parse text) request.context =
      "Rules: post-7, it's')\nResult: inject (matched 'it's')')" := by decide +kernel
  rw [outcome_check_given] at given
  exact ⟨storable, injects, report, token, stored, (Except.ok.inj given).symm.trans shown,
    firstFit, endsWithToken⟩

end Command

end PageInjection
