import PageInjection.Proofs.Rule.FirstMatch

/-!
# Rule texts joined by commas

The rules of a text that is put together of parts with commas between them are the
rules of the parts, one part after the other.  A request passes the whole text when
it passes one of the parts, so that neither their order nor their number matters.
-/

namespace PageInjection

/-- A part of a rule text without a token: nothing but commas and blanks. -/
def IsEmptyPart (part : String) : Prop :=
  ∀ c ∈ part.toList, c = ',' ∨ Text.isBlank c = true

instance decidableIsEmptyPart (part : String) : Decidable (IsEmptyPart part) :=
  decidable_of_iff (part.toList.all (fun c => c == ',' || Text.isBlank c) = true)
    (by simp [IsEmptyPart])

namespace RuleSet

theorem tokens_append_comma (front back : List Char) :
    tokens (front ++ ',' :: back) = tokens front ++ tokens back := by
  simp [tokens, Text.splitOn_append_cons]

theorem tokens_intercalate (parts : List (List Char)) :
    tokens ([','].intercalate parts) = parts.flatMap tokens := by
  induction parts with
  | nil => rfl
  | cons part parts ih =>
      cases parts with
      | nil => simp
      | cons next parts =>
          have split : [','].intercalate (part :: next :: parts) =
              part ++ ',' :: [','].intercalate (next :: parts) := by
            rw [List.intercalate_cons_cons, List.append_assoc]
            rfl
          rw [split, tokens_append_comma, ih]
          rfl

theorem tokens_eq_nil_iff {text : List Char} :
    tokens text = [] ↔ ∀ c ∈ text, c = ',' ∨ Text.isBlank c = true := by
  rw [← Text.forall_mem_splitOn_iff]
  simp [tokens, List.filter_eq_nil_iff, Text.trim_eq_nil_iff, Text.AllBlank]

theorem rules_parse_intercalate (parts : List String) :
    (parse (",".intercalate parts)).rules = parts.flatMap fun part => (parse part).rules := by
  have texts : (",".intercalate parts).toList = [','].intercalate (parts.map String.toList) := by
    rw [String.toList_intercalate]
    rfl
  simp [parse, texts, tokens_intercalate, List.map_flatMap, List.flatMap_map]

theorem rules_parse_append (first second : String) :
    (parse (first ++ "," ++ second)).rules = (parse first).rules ++ (parse second).rules := by
  have texts : (first ++ "," ++ second).toList = first.toList ++ ',' :: second.toList := by simp
  simp [parse, texts, tokens_append_comma]

theorem firstMatch_parse_append (first second : String) (context : RequestContext) :
    (parse (first ++ "," ++ second)).firstMatch context =
      ((parse first).firstMatch context).or ((parse second).firstMatch context) := by
  unfold firstMatch
  rw [rules_parse_append, List.find?_append]
  cases context.isAdmin <;> rfl

end RuleSet

theorem shouldInject_append (first second : String) (context : RequestContext) :
    shouldInject (first ++ "," ++ second) context =
      (shouldInject first context || shouldInject second context) := by
  simp only [shouldInject_eq_isSome_firstMatch, RuleSet.firstMatch_parse_append,
    Option.isSome_or]

/-- A request passes the parts together when it passes one of them. -/
theorem shouldInject_intercalate_iff {parts : List String} {context : RequestContext} :
    shouldInject (",".intercalate parts) context = true ↔
      ∃ part ∈ parts, shouldInject part context = true := by
  simp only [shouldInject_iff_exists_rule, RuleSet.rules_parse_intercalate, List.mem_flatMap]
  constructor
  · rintro ⟨notAdmin, rule, ⟨part, inParts, inRules⟩, fits⟩
    exact ⟨part, inParts, notAdmin, rule, inRules, fits⟩
  · rintro ⟨part, inParts, notAdmin, rule, inRules, fits⟩
    exact ⟨notAdmin, rule, ⟨part, inParts, inRules⟩, fits⟩

theorem shouldInject_of_isEmptyPart {part : String} (empty : IsEmptyPart part)
    (context : RequestContext) : shouldInject part context = false := by
  have noTokens := RuleSet.tokens_eq_nil_iff.mpr empty
  rw [Bool.eq_false_iff, ne_eq, shouldInject_iff_exists_rule]
  simp [RuleSet.parse, noTokens]

/-- Parts that are among the others, or empty, pass no request that the others stop. -/
theorem shouldInject_intercalate_mono {parts others : List String}
    (among : ∀ part ∈ parts, ¬ IsEmptyPart part → part ∈ others) {context : RequestContext}
    (passes : shouldInject (",".intercalate parts) context = true) :
    shouldInject (",".intercalate others) context = true := by
  obtain ⟨part, member, partPasses⟩ := shouldInject_intercalate_iff.mp passes
  have notEmpty : ¬ IsEmptyPart part := by
    intro empty
    rw [shouldInject_of_isEmptyPart empty] at partPasses
    exact absurd partPasses (by decide)
  exact shouldInject_intercalate_iff.mpr ⟨part, among part member notEmpty, partPasses⟩

/-- A text of two parts has the rules of the first and then those of the second; it
passes what one of them passes, and its first rule that fits is that of the first
part if there is one.  Texts that have the same parts, empty ones apart, pass the
same requests whatever the order and number of the parts, and more parts pass no
fewer. -/
theorem joined_rule_texts_compose (context : RequestContext) :
    (∀ first second : String,
      (RuleSet.parse (first ++ "," ++ second)).rules =
        (RuleSet.parse first).rules ++ (RuleSet.parse second).rules ∧
      shouldInject (first ++ "," ++ second) context =
        (shouldInject first context || shouldInject second context) ∧
      (RuleSet.parse (first ++ "," ++ second)).firstMatch context =
        ((RuleSet.parse first).firstMatch context).or
          ((RuleSet.parse second).firstMatch context)) ∧
    (∀ parts others : List String,
      (∀ part, ¬ IsEmptyPart part → (part ∈ parts ↔ part ∈ others)) →
      shouldInject (",".intercalate parts) context =
        shouldInject (",".intercalate others) context) ∧
    (∀ parts others : List String, (∀ part ∈ parts, part ∈ others) →
      shouldInject (",".intercalate parts) context = true →
      shouldInject (",".intercalate others) context = true) := by
  refine ⟨?_, ?_, ?_⟩
  · intro first second
    exact ⟨RuleSet.rules_parse_append first second,
      shouldInject_append first second context,
      RuleSet.firstMatch_parse_append first second context⟩
  · intro parts others same
    apply Bool.eq_iff_iff.mpr
    constructor
    · exact shouldInject_intercalate_mono fun part member notEmpty =>
        (same part notEmpty).mp member
    · exact shouldInject_intercalate_mono fun part member notEmpty =>
        (same part notEmpty).mpr member
  · intro parts others among
    exact shouldInject_intercalate_mono fun part member _ => among part member

/-- Two parts pass a page as its slug, also in the other order with a part repeated
and empty parts between them, and with one part more. -/
theorem joined_rule_texts_of_page :
    let context : RequestContext := { isSingular := true, slug := some "about" }
    let parts := [" about ,", "post-7"]
    let others := ["post-7", "", " about ,", " ,", "post-7"]
    (∀ part, ¬ IsEmptyPart part → (part ∈ parts ↔ part ∈ others)) ∧
      (∀ part ∈ parts, part ∈ "all" :: parts) ∧
      shouldInject " about ,,post-7" context = true ∧
      shouldInject "post-7,, about ,, ,,post-7" context = true ∧
      shouldInject "all, about ,,post-7" context = true := by
  intro context parts others
  have same : ∀ part, ¬ IsEmptyPart part → (part ∈ parts ↔ part ∈ others) := by
    intro part notEmpty
    have notBlank : part ≠ "" ∧ part ≠ " ," := by
      constructor
      · rintro rfl
        exact notEmpty (by decide)
      · rintro rfl
        exact notEmpty (by decide)
    simp only [parts, others, List.mem_cons, List.not_mem_nil]
    grind
  have among : ∀ part ∈ parts, part ∈ "all" :: parts := fun part member =>
    List.mem_cons_of_mem _ member
  have passes : shouldInject (",".intercalate parts) context = true := by decide +kernel
  have reordered := (joined_rule_texts_compose context).2.1 parts others same
  have extended := (joined_rule_texts_compose context).2.2 parts ("all" :: parts) among passes
  refine ⟨same, among, passes, ?_, extended⟩
  exact reordered.symm.trans passes

end PageInjection
