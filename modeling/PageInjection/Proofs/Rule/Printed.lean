import PageInjection.Command.Report
import PageInjection.Proofs.Rule.Joined

/-!
# Printed rules are read back

A report lists the tokens of a rule text with a comma and a space between them.
Reading that list gives the same rules again: the tokens are kept as they were
written, and neither the comma nor the space can be part of one at its ends.
-/

namespace PageInjection

/-- What a token of a rule text can be: it has characters, none of them a comma, and
no blank stands at its ends. -/
structure IsToken (token : List Char) : Prop where
  written : token ≠ []
  whole : ',' ∉ token
  bare : Text.BareEnds token

instance decidableIsToken (token : List Char) : Decidable (IsToken token) :=
  decidable_of_iff (token ≠ [] ∧ ',' ∉ token ∧ Text.BareEnds token)
    ⟨fun ⟨written, whole, bare⟩ => ⟨written, whole, bare⟩,
      fun proper => ⟨proper.written, proper.whole, proper.bare⟩⟩

namespace RuleSet

/-- The rules as reports list them. -/
def printed (rules : RuleSet) : String :=
  ", ".intercalate (rules.rules.map (·.token))

theorem isToken_of_mem_tokens {text token : List Char} (member : token ∈ tokens text) :
    IsToken token := by
  obtain ⟨written, piece, ⟨whole, _⟩, bare, front, back, rfl, _⟩ := mem_tokens_iff.mp member
  refine ⟨written, ?_, bare⟩
  intro comma
  exact whole (by simp [comma])

theorem tokens_of_isToken {token : List Char} (proper : IsToken token) :
    tokens token = [token] := by
  simp [tokens, Text.splitOn_of_not_mem proper.whole, Text.trim_eq_self proper.bare,
    proper.written]

/-- A blank in front of a text changes none of its tokens. -/
theorem tokens_cons_of_isBlank {c : Char} (blank : Text.isBlank c = true) (other : c ≠ ',')
    (text : List Char) : tokens (c :: text) = tokens text := by
  obtain ⟨piece, pieces, cut⟩ :=
    List.exists_cons_of_ne_nil (Text.splitOn_ne_nil ',' text)
  simp [tokens, Text.splitOn, other, cut, Text.trim_cons_of_isBlank blank]

theorem tokens_intercalate_of_isToken {printed : List (List Char)}
    (proper : ∀ token ∈ printed, IsToken token) :
    tokens ([',', ' '].intercalate printed) = printed := by
  induction printed with
  | nil => rfl
  | cons token printed ih =>
      have first : tokens token = [token] := tokens_of_isToken (proper token (by simp))
      cases printed with
      | nil => simpa using first
      | cons next printed =>
          have laterProper : ∀ other ∈ next :: printed, IsToken other := fun other member =>
            proper other (List.mem_cons_of_mem token member)
          have split : [',', ' '].intercalate (token :: next :: printed) =
              token ++ ',' :: ' ' :: [',', ' '].intercalate (next :: printed) := by
            rw [List.intercalate_cons_cons, List.append_assoc]
            rfl
          rw [split, tokens_append_comma, first,
            tokens_cons_of_isBlank (by decide) (by decide), ih laterProper]
          rfl

theorem map_token_parse (text : String) :
    (parse text).rules.map (·.token) = (tokens text.toList).map String.ofList := by
  simp [parse, ConditionRule.token_ofToken]

theorem tokens_intercalate_comma_space {texts : List String}
    (proper : ∀ token ∈ texts, IsToken token.toList) :
    tokens (", ".intercalate texts).toList = texts.map String.toList := by
  have split : (", ".intercalate texts).toList =
      [',', ' '].intercalate (texts.map String.toList) := by
    rw [String.toList_intercalate]
    rfl
  rw [split, tokens_intercalate_of_isToken]
  intro token member
  obtain ⟨text, inTexts, rfl⟩ := List.mem_map.mp member
  exact proper text inTexts

theorem isToken_token_of_mem_parse {text : String} {rule : ConditionRule}
    (member : rule ∈ (parse text).rules) : IsToken rule.token.toList := by
  have inTokens : rule.token ∈ (tokens text.toList).map String.ofList := by
    rw [← map_token_parse]
    exact List.mem_map_of_mem member
  obtain ⟨token, tokenMember, same⟩ := List.mem_map.mp inTokens
  rw [← same, String.toList_ofList]
  exact isToken_of_mem_tokens tokenMember

theorem parse_printed (text : String) : parse (parse text).printed = parse text := by
  have proper : ∀ token ∈ (parse text).rules.map (·.token), IsToken token.toList := by
    intro token member
    obtain ⟨rule, inRules, rfl⟩ := List.mem_map.mp member
    exact isToken_token_of_mem_parse inRules
  have same : tokens (parse text).printed.toList = tokens text.toList := by
    rw [printed, tokens_intercalate_comma_space proper, map_token_parse]
    simp
  unfold parse at same ⊢
  rw [same]

end RuleSet

theorem Report.checked_eq_printed (rules : RuleSet) (context : RequestContext) :
    rules.rules = [] ∨
      ∃ verdict, checked rules context = "Rules: " ++ rules.printed ++ "\nResult: " ++ verdict := by
  by_cases empty : rules.rules = []
  · exact .inl empty
  · have notEmpty : ¬ rules.rules.isEmpty = true := by simpa using empty
    exact .inr ⟨_, if_neg notEmpty⟩

/-- The rules that a report lists are read back as they were, each as the same kind of
rule with the same id, name and text.  Their tokens are texts with characters, without
commas and without blanks at their ends, and every list of such texts is the list of
tokens that is read from it. -/
theorem printed_rules_are_read_back :
    (∀ text : String,
      RuleSet.parse (RuleSet.parse text).printed = RuleSet.parse text ∧
      (∀ rule ∈ (RuleSet.parse text).rules, IsToken rule.token.toList) ∧
      ∀ context, (RuleSet.parse text).rules = [] ∨
        ∃ verdict, Report.checked (RuleSet.parse text) context =
          "Rules: " ++ (RuleSet.parse text).printed ++ "\nResult: " ++ verdict) ∧
    ∀ tokens : List String, (∀ token ∈ tokens, IsToken token.toList) →
      (RuleSet.parse (", ".intercalate tokens)).rules.map (·.token) = tokens := by
  refine ⟨?_, ?_⟩
  · intro text
    exact ⟨RuleSet.parse_printed text, fun rule => RuleSet.isToken_token_of_mem_parse,
      Report.checked_eq_printed _⟩
  · intro tokens proper
    rw [RuleSet.map_token_parse, RuleSet.tokens_intercalate_comma_space proper]
    simp

/-- Zeros in front of an id, an id that is too large, a category without a name and
blanks inside of a title are kept. -/
theorem printed_rules_of_odd_tokens :
    let tokens := ["post-007", "post-18446744073709551616", "category-", "all", "a \t b"]
    (∀ token ∈ tokens, IsToken token.toList) ∧
      (RuleSet.parse "post-007, post-18446744073709551616, category-, all, a \t b").rules.map
        (·.token) = tokens := by
  intro tokens
  have proper : ∀ token ∈ tokens, IsToken token.toList := by decide +kernel
  exact ⟨proper, printed_rules_are_read_back.2 tokens proper⟩

end PageInjection
