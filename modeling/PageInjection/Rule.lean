import PageInjection.Request
import PageInjection.Text.Blank
import PageInjection.Text.Separated

/-!
# Condition rules

A rule text is a comma-separated list of tokens; global fragments are injected
when one of them fits the request.  Tokens are classified when they are read,
and a token that fits no special form is tried as a slug or title.
-/

namespace PageInjection

/-- One token of a rule text. -/
inductive ConditionRule where
  | all
  | resourceId (id : ResourceId) (raw : String)
  | category (name : String) (raw : String)
  | literal (raw : String)
deriving DecidableEq, Repr

namespace ConditionRule

def allToken : String := "all"

def resourceLead : List Char := ['p', 'o', 's', 't', '-']

def categoryLead : List Char := ['c', 'a', 't', 'e', 'g', 'o', 'r', 'y', '-']

def token : ConditionRule → String
  | .all => allToken
  | .resourceId _ raw => raw
  | .category _ raw => raw
  | .literal raw => raw

/-- The id in a token such as `post-12`: ASCII digits only, within 64 bits. -/
def resourceIdOf? (token : List Char) : Option ResourceId := do
  let digits ← Text.dropLead? resourceLead token
  guard (digits.all Char.isDigit)
  Text.uint64? digits

/-- The name in a token such as `category-news`. -/
def categoryOf? (token : List Char) : Option (List Char) := do
  let name ← Text.dropLead? categoryLead token
  guard (!name.isEmpty)
  return name

def ofToken (token : String) : ConditionRule :=
  if token = allToken then .all
  else
    match resourceIdOf? token.toList with
    | some id => .resourceId id token
    | none =>
        match categoryOf? token.toList with
        | some name => .category (String.ofList name) token
        | none => .literal token

/-- Whether a token names the current page or post: by slug, title or id. -/
def namesPageOrPost (token : String) (context : RequestContext) : Bool :=
  context.isPageOrPost &&
    (context.slug == some token || context.title == some token ||
      match Text.uint64? token.toList, context.resourceId with
      | some named, some current => named == current
      | _, _ => false)

/-- Whether a token is the slug of the current resource, or names it. -/
def literalMatches (token : String) (context : RequestContext) : Bool :=
  (context.isSingular && context.slug == some token) || namesPageOrPost token context

def fits (context : RequestContext) : ConditionRule → Bool
  | .all => true
  | .resourceId id raw =>
      context.singularResourceId == some id || literalMatches raw context
  | .category name raw => literalMatches raw context || context.inCategory name
  | .literal raw => literalMatches raw context

end ConditionRule

/-- The rules of one rule text, in order. -/
structure RuleSet where
  rules : List ConditionRule
deriving DecidableEq, Repr

namespace RuleSet

/-- The tokens of a rule text: the trimmed pieces between commas that are not
empty. -/
def tokens (text : List Char) : List (List Char) :=
  ((Text.splitOn ',' text).map Text.trim).filter (!·.isEmpty)

def parse (text : String) : RuleSet :=
  ⟨(tokens text.toList).map fun token => .ofToken (String.ofList token)⟩

/-- The first rule that fits, never for an admin request. -/
def firstMatch (rules : RuleSet) (context : RequestContext) : Option ConditionRule :=
  if context.isAdmin then none else rules.rules.find? (·.fits context)

/-- Whether some rule fits a request that is not an admin request. -/
def fits (rules : RuleSet) (context : RequestContext) : Bool :=
  (rules.firstMatch context).isSome

end RuleSet

def shouldInject (ruleText : String) (context : RequestContext) : Bool :=
  !context.isAdmin && (RuleSet.parse ruleText).fits context

end PageInjection
