import PageInjection.CommandLine
import PageInjection.Proofs.CommandLine.Options
import PageInjection.Proofs.Request.Building
import PageInjection.Proofs.Text.Numeral

/-!
# Requests in words

Every request can be said in words: a flag for each field that is set and one for each
category, in any order.  The commands that simulate a request read such words back as
the request that was meant, whatever the texts in them look like.
-/

namespace PageInjection

/-- One flag of a request, with its value. -/
inductive RequestFlag where
  | admin
  | singular
  | resourceId (id : ResourceId)
  | slug (text : String)
  | title (text : String)
  | type (value : ResourceType)
  | category (text : String)
deriving DecidableEq, Repr

/-- The context of flags has what they set, and the set of their categories. -/
theorem RequestFlags.context_eq (flags : RequestFlags) : flags.context =
    { isAdmin := flags.isAdmin, isSingular := flags.isSingular, resourceId := flags.resourceId
      slug := flags.slug, title := flags.title, type := flags.type
      categories := slugSet flags.categories } := by
  unfold context settings RequestContext.build
  cases flags.resourceId <;> cases flags.slug <;> cases flags.title <;> cases flags.type <;>
    simp [RequestContext.apply, RequestContext.foldl_addCategory, slugSet]

namespace RequestFlag

def name : RequestFlag → String
  | .admin => "admin"
  | .singular => "singular"
  | .resourceId _ => "resource-id"
  | .slug _ => "slug"
  | .title _ => "title"
  | .type _ => "type"
  | .category _ => "category"

def names : List String :=
  ["admin", "singular", "resource-id", "slug", "title", "type", "category"]

/-- The value as it is written; a switch has none. -/
def value? : RequestFlag → Option String
  | .admin => none
  | .singular => none
  | .resourceId id => some (String.ofList (Text.decimal id.toNat))
  | .slug text => some text
  | .title text => some text
  | .type value => some value.name
  | .category text => some text

/-- The flag as one word. -/
def word (flag : RequestFlag) : String :=
  match flag.value? with
  | none => "--" ++ flag.name
  | some value => "--" ++ flag.name ++ "=" ++ value

/-- The setting of a request that the flag stands for. -/
def setting : RequestFlag → RequestSetting
  | .admin => .admin true
  | .singular => .singular true
  | .resourceId id => .resourceId id
  | .slug text => .slug text
  | .title text => .title text
  | .type value => .type value
  | .category text => .category text

/-- The option that reads the flag. -/
def option : RequestFlag → OptionShape RequestFlags
  | .resourceId _ =>
      .id "resource-id" "RESOURCE_ID" fun id flags => { flags with resourceId := some id }
  | .slug _ => .text "slug" "SLUG" fun slug flags => { flags with slug := some slug }
  | .title _ => .text "title" "TITLE" fun title flags => { flags with title := some title }
  | .type _ =>
      .word "type" "RESOURCE_TYPE" ResourceType.ofWord? ResourceType.unknownWord
        fun type flags => { flags with type := some type }
  | .category _ =>
      { OptionShape.text "category" "CATEGORIES" fun slug flags =>
          { flags with categories := flags.categories ++ [slug] } with repeats := true }
  | .singular => .switch "singular" fun flags => { flags with isSingular := true }
  | .admin => .switch "admin" fun flags => { flags with isAdmin := true }

/-- What the flag does to the flags that were read before it. -/
def apply (flags : RequestFlags) : RequestFlag → RequestFlags
  | .admin => { flags with isAdmin := true }
  | .singular => { flags with isSingular := true }
  | .resourceId id => { flags with resourceId := some id }
  | .slug text => { flags with slug := some text }
  | .title text => { flags with title := some text }
  | .type value => { flags with type := some value }
  | .category text => { flags with categories := flags.categories ++ [text] }

/-- Two flags that can be said of one request: only a category is given more than once. -/
def IsApart (flag other : RequestFlag) : Prop :=
  flag.name = other.name → flag.name = "category"

theorem IsApart.symm {flag other : RequestFlag} (apart : flag.IsApart other) :
    other.IsApart flag :=
  fun same => same.trans (apart same.symm)

theorem name_mem_names (flag : RequestFlag) : flag.name ∈ names := by
  cases flag <;> simp [name, names]

@[simp] theorem name_option (flag : RequestFlag) : flag.option.name = flag.name := by
  cases flag <;> rfl

theorem find?_option (flag : RequestFlag) :
    RequestFlags.options.find? (·.name == flag.name) = some flag.option := by
  cases flag <;> rfl

theorem repeats_option (flag : RequestFlag) : flag.option.repeats = (flag.name == "category") := by
  cases flag <;> rfl

theorem readUInt64_decimal (id : ResourceId) :
    Text.readUInt64 (Text.decimal id.toNat) = .ok id := by
  have spelled : Text.Spelled (Text.decimal id.toNat) id.toNat :=
    ⟨_, .inl rfl, Text.isNumeral_decimal _, Text.numeralValue_decimal _⟩
  have read := Text.uint64?_eq_some_iff.mpr spelled
  unfold Text.uint64? at read
  cases found : Text.readUInt64 (Text.decimal id.toNat) with
  | error fault => rw [found] at read; exact nomatch read
  | ok id' => rw [found] at read; cases read; rfl

theorem take_option (flag : RequestFlag) (flags : RequestFlags) :
    flag.option.take (flag.value?.getD "") flags = .ok (flag.apply flags) := by
  cases flag with
  | resourceId id => simp [option, OptionShape.id, value?, readUInt64_decimal, apply]
  | type value => simp [option, OptionShape.word, value?, apply]
  | _ => rfl

theorem said_by_word (flag : RequestFlag) :
    flag.option.Says (flag.value?.getD "") [flag.word] := by
  cases flag with
  | admin => exact .switch rfl
  | singular => exact .switch rfl
  | _ => exact .attached _ rfl

/-- The flags of a request become settings of its context. -/
theorem context_apply (flags : RequestFlags) (flag : RequestFlag) :
    (flag.apply flags).context = flags.context.apply flag.setting := by
  rw [RequestFlags.context_eq, RequestFlags.context_eq]
  cases flag with
  | category text =>
      simp [apply, setting, RequestContext.apply, RequestContext.addCategory, slugSet]
  | _ => rfl

theorem context_foldl_apply (said : List RequestFlag) :
    (said.foldl apply {}).context = .build (said.map setting) := by
  suffices follows : ∀ flags : RequestFlags,
      (said.foldl apply flags).context = (said.map setting).foldl .apply flags.context from
    follows {}
  induction said with
  | nil => exact fun flags => rfl
  | cons flag said ih =>
      intro flags
      rw [List.foldl_cons, ih, context_apply]
      rfl

end RequestFlag

namespace RequestContext

open RequestSetting

variable {context : RequestContext} {slugs : List String} {said : List RequestFlag}

/-- The flags for the fields of a context that are set, and for categories. -/
def flags (context : RequestContext) (slugs : List String) : List RequestFlag :=
  [if context.isAdmin then some .admin else none,
    if context.isSingular then some .singular else none,
    context.resourceId.map .resourceId, context.slug.map .slug, context.title.map .title,
    context.type.map .type].filterMap id ++ slugs.map .category

theorem pairwise_flags (context : RequestContext) (slugs : List String) :
    (context.flags slugs).Pairwise RequestFlag.IsApart := by
  refine List.pairwise_append.mpr ⟨?_, ?_, ?_⟩
  · rw [List.pairwise_filterMap]
    simp [RequestFlag.IsApart, RequestFlag.name]
  · exact List.pairwise_map.mpr (List.pairwise_of_forall fun _ _ _ => rfl)
  · rintro flag member _ category same
    obtain ⟨slug, _, rfl⟩ := List.mem_map.mp category
    exact same

/-- What the flags of a context are there for, whatever their order. -/
theorem exists_setting_iff (anyOrder : said.Perm (context.flags slugs))
    (holds : RequestSetting → Prop) :
    (∃ setting ∈ said.map RequestFlag.setting, holds setting) ↔
      (context.isAdmin = true ∧ holds (.admin true)) ∨
      (context.isSingular = true ∧ holds (.singular true)) ∨
      (∃ id, context.resourceId = some id ∧ holds (.resourceId id)) ∨
      (∃ text, context.slug = some text ∧ holds (.slug text)) ∨
      (∃ text, context.title = some text ∧ holds (.title text)) ∨
      (∃ value, context.type = some value ∧ holds (.type value)) ∨
      ∃ text ∈ slugs, holds (.category text) := by
  have overFlags : (∃ setting ∈ said.map RequestFlag.setting, holds setting) ↔
      ∃ flag ∈ context.flags slugs, holds flag.setting := by
    simp [anyOrder.mem_iff]
  rw [overFlags]
  simp [flags, or_and_right, exists_or, or_assoc, RequestFlag.setting]

/-- A context is what is built from its flags, in any order and with its categories in any
order and number. -/
theorem build_flags (isSet : IsSlugSet context.categories)
    (sameSlugs : ∀ slug, slug ∈ slugs ↔ slug ∈ context.categories)
    (anyOrder : said.Perm (context.flags slugs)) :
    build (said.map RequestFlag.setting) = context := by
  have said_iff := exists_setting_iff anyOrder
  have given (slug : String) : slug ∈ context.categories ↔
      ∃ setting ∈ said.map RequestFlag.setting, slug ∈ setting.slugs := by
    rw [said_iff]
    simp [RequestSetting.slugs, sameSlugs]
  have described : context.IsDescribedBy (said.map RequestFlag.setting) := {
    isAdmin := by
      have last : last? admin? _ = if context.isAdmin then some true else none :=
        last?_eq fun value => by rw [said_iff]; simp [admin?]
      rw [last]
      cases context.isAdmin <;> rfl
    isSingular := by
      have last : last? singular? _ = if context.isSingular then some true else none :=
        last?_eq fun value => by rw [said_iff]; simp [singular?]
      rw [last]
      cases context.isSingular <;> rfl
    resourceId := Eq.symm <| last?_eq fun value => by rw [said_iff]; simp [resourceId?]
    slug := Eq.symm <| last?_eq fun value => by rw [said_iff]; simp [slug?]
    title := Eq.symm <| last?_eq fun value => by rw [said_iff]; simp [title?]
    type := Eq.symm <| last?_eq fun value => by rw [said_iff]; simp [type?]
    isSlugSet := isSet
    mem_categories_iff := given
    inCategory_iff := fun slug => List.contains_iff_mem.trans (given slug) }
  exact (build_isDescribedBy _).unique described (build_eq_build_iff.mp rfl)

end RequestContext

namespace Level

variable {δ : Type} {level : Level δ} {get : δ → RequestFlags} {put : RequestFlags → δ → δ}
  {said : List RequestFlag}

/-- A level that offers the options of a request, for one part of its drafts, behind
options of its own. -/
structure OffersRequest (level : Level δ) (get : δ → RequestFlags)
    (put : RequestFlags → δ → δ) : Prop where
  bare : level.commands = []
  options : ∃ own, level.options = own ++ RequestFlags.options.map (.onPart get put) ∧
    ∀ option ∈ own, option.name ∉ RequestFlag.names
  get_put : ∀ request draft, get (put request draft) = request
  put_get : ∀ draft, put (get draft) draft = draft
  put_put : ∀ request other draft, put request (put other draft) = put request draft

/-- How a flag of a request is said to a level that offers it. -/
def saying (get : δ → RequestFlags) (put : RequestFlags → δ → δ) (flag : RequestFlag) :
    OptionShape δ × String :=
  (flag.option.onPart get put, flag.value?.getD "")

theorem OffersRequest.knows (offers : level.OffersRequest get put) (flag : RequestFlag) :
    level.Knows (flag.option.onPart get put) := by
  have writable : ∀ name ∈ RequestFlag.names,
      name.toList ≠ [] ∧ name ≠ helpWord ∧ '=' ∉ name.toList := by decide
  have named : (flag.option.onPart get put).name = flag.name := flag.name_option
  obtain ⟨isNamed, notHelp, noValue⟩ := writable _ flag.name_mem_names
  obtain ⟨own, options, apart⟩ := offers.options
  have notOwn : own.find? (·.name == flag.name) = none := by
    refine List.find?_eq_none.mpr fun option member same => apart option member ?_
    rw [beq_iff_eq.mp same]
    exact flag.name_mem_names
  refine ⟨?_, named ▸ isNamed, named ▸ notHelp, named ▸ noValue⟩
  rw [named, options, List.find?_append, notOwn, Option.none_or, List.find?_map]
  exact congrArg (Option.map _) flag.find?_option

theorem give_flag (get : δ → RequestFlags) (put : RequestFlags → δ → δ) {flag : RequestFlag}
    {reading : LevelReading δ} (fresh : flag.name ∈ reading.given → flag.name = "category") :
    reading.give (flag.option.onPart get put) (flag.value?.getD "") = .ok { reading with
      draft := put (flag.apply (get reading.draft)) reading.draft
      given := reading.given ++ [flag.name] } := by
  have named : (flag.option.onPart get put).name = flag.name := flag.name_option
  have accepted : (reading.given.contains flag.name && !flag.option.repeats) = false := by
    rw [flag.repeats_option]
    by_cases given : flag.name ∈ reading.given
    · simp [fresh given]
    · simp [given]
  have taken : (flag.option.onPart get put).take (flag.value?.getD "") reading.draft =
      .ok (put (flag.apply (get reading.draft)) reading.draft) := by
    simp [OptionShape.onPart, flag.take_option, Except.map]
  rw [LevelReading.give, named, taken]
  exact if_neg (Bool.eq_false_iff.mp accepted)

/-- Flags of a request that can be said together are all taken, one after the other. -/
theorem OffersRequest.giveAll (offers : level.OffersRequest get put)
    (apart : said.Pairwise RequestFlag.IsApart) (reading : LevelReading δ)
    (fresh : ∀ flag ∈ said, flag.name ∈ reading.given → flag.name = "category") :
    reading.giveAll (said.map (saying get put)) = .ok { reading with
      draft := put (said.foldl RequestFlag.apply (get reading.draft)) reading.draft
      given := reading.given ++ said.map RequestFlag.name } := by
  induction said generalizing reading with
  | nil => simp [LevelReading.giveAll, offers.put_get]; rfl
  | cons flag said ih =>
      obtain ⟨first, later⟩ := List.pairwise_cons.mp apart
      obtain ⟨freshFirst, freshLater⟩ := List.forall_mem_cons.mp fresh
      have step := give_flag get put freshFirst
      rw [List.map_cons, saying, LevelReading.giveAll_cons step]
      refine (ih later _ ?_).trans ?_
      -- A flag with a name that was given, before or just now, is a category.
      · intro other member given
        rcases List.mem_append.mp given with before | isFirst
        · exact freshLater other member before
        · exact (first other member).symm (List.mem_singleton.mp isFirst)
      · rw [offers.get_put, offers.put_put, List.append_assoc]
        rfl

theorem saysAll_words (get : δ → RequestFlags) (put : RequestFlags → δ → δ)
    (said : List RequestFlag) :
    OptionShape.SaysAll (said.map (saying get put)) (said.map RequestFlag.word) := by
  induction said with
  | nil => exact .nil
  | cons flag said ih => exact .cons (flag.said_by_word.onPart get put) ih

/-- The words for a request are read into the part of the draft that is kept for it. -/
theorem OffersRequest.readAll (offers : level.OffersRequest get put)
    (apart : said.Pairwise RequestFlag.IsApart) (draft : δ) :
    level.readAll draft (said.map RequestFlag.word) = .ok {
      draft := put (said.foldl RequestFlag.apply (get draft)) draft
      given := said.map RequestFlag.name } := by
  refine readAll_said offers.bare (saysAll_words get put said) ?_
    (offers.giveAll apart { draft } fun _ _ given => absurd given List.not_mem_nil)
  intro saying member
  obtain ⟨flag, _, rfl⟩ := List.mem_map.mp member
  exact offers.knows flag

end Level

namespace Command

open Level (saying saysAll_words)

theorem checkLevel_offersRequest :
    checkLevel.OffersRequest CheckDraft.request fun request draft => { draft with request } where
  bare := rfl
  options := ⟨checkLevel.options.take 1, rfl, by decide⟩
  get_put _ _ := rfl
  put_get _ := rfl
  put_put _ _ _ := rfl

theorem renderLevel_offersRequest :
    renderLevel.OffersRequest RenderDraft.request fun request draft => { draft with request } where
  bare := rfl
  options := ⟨_, rfl, by decide⟩
  get_put _ _ := rfl
  put_get _ := rfl
  put_put _ _ _ := rfl

theorem execLevel_offersRequest :
    execLevel.OffersRequest ExecDraft.request fun request draft => { draft with request } where
  bare := rfl
  options := ⟨_, rfl, by decide⟩
  get_put _ _ := rfl
  put_get _ := rfl
  put_put _ _ _ := rfl

theorem read_check {said : List RequestFlag} (apart : said.Pairwise RequestFlag.IsApart) :
    read "check" (said.map RequestFlag.word) =
      .ok (.check none (said.foldl RequestFlag.apply {})) := by
  rw [read, checkLevel_offersRequest.readAll apart]
  rfl

theorem read_render {said : List RequestFlag} (apart : said.Pairwise RequestFlag.IsApart) :
    read "render" (said.map RequestFlag.word) =
      .ok (.render .footer false (said.foldl RequestFlag.apply {})) := by
  rw [read, renderLevel_offersRequest.readAll apart]
  rfl

/-- The option for the text of a script, as the command that runs scripts reads it. -/
def execContent : OptionShape ExecDraft :=
  ContentDraft.contentOption.onPart ExecDraft.content fun content draft => { draft with content }

theorem execLevel_knows_execContent : execLevel.Knows execContent where
  found := rfl
  isNamed := by decide
  notHelp := by decide
  noValue := by decide

/-- The text of a script may be given between any two flags of a request. -/
theorem giveAll_execContent {before after : List RequestFlag}
    (apart : (before ++ after).Pairwise RequestFlag.IsApart) (text : String) :
    LevelReading.giveAll { draft := {} } (before.map
      (saying ExecDraft.request fun request draft => { draft with request }) ++
      (execContent, text) :: after.map
        (saying ExecDraft.request fun request draft => { draft with request })) = .ok {
      draft := {
        content := { content := some text }
        request := (before ++ after).foldl RequestFlag.apply {} }
      given := before.map RequestFlag.name ++ ["content"] ++ after.map RequestFlag.name } := by
  obtain ⟨apartBefore, apartAfter, across⟩ := List.pairwise_append.mp apart
  have first := execLevel_offersRequest.giveAll apartBefore { draft := {} }
    fun _ _ given => absurd given List.not_mem_nil
  have notNamed (flag : RequestFlag) : flag.name ≠ "content" := by
    intro same
    exact absurd (same ▸ flag.name_mem_names) (by decide)
  have content : LevelReading.give
      { draft := { request := before.foldl RequestFlag.apply {} }
        given := before.map RequestFlag.name } execContent text = .ok
      { draft := {
          content := { content := some text }
          request := before.foldl RequestFlag.apply {} }
        given := before.map RequestFlag.name ++ ["content"] } := by
    have fresh : "content" ∉ before.map RequestFlag.name := by
      simp [notNamed]
    simp [LevelReading.give, execContent, OptionShape.onPart, ContentDraft.contentOption,
      OptionShape.text, fresh, Except.map]
  have last := execLevel_offersRequest.giveAll apartAfter
    { draft := {
        content := { content := some text }
        request := before.foldl RequestFlag.apply {} }
      given := before.map RequestFlag.name ++ ["content"] } (by
    intro flag member given
    rcases List.mem_append.mp given with earlier | same
    · obtain ⟨other, memberBefore, same⟩ := List.mem_map.mp earlier
      exact same ▸ across other memberBefore flag member same
    · exact absurd (List.mem_singleton.mp same) (notNamed flag))
  rw [LevelReading.giveAll_append first]
  refine (LevelReading.giveAll_cons content _).trans ?_
  rw [List.foldl_append]
  exact last

theorem read_exec {before after : List RequestFlag}
    (apart : (before ++ after).Pairwise RequestFlag.IsApart) {text : String}
    {content : List String} (given : ContentDraft.contentOption.Says text content) :
    read "exec" (before.map RequestFlag.word ++ (content ++ after.map RequestFlag.word)) =
      .ok (.exec (.inline text) ((before ++ after).foldl RequestFlag.apply {})) := by
  have read : execLevel.readAll {} _ = .ok _ := Level.readAll_said rfl
    ((saysAll_words _ _ before).append (.cons (given.onPart _ _) (saysAll_words _ _ after)))
    ?_ (giveAll_execContent apart text)
  · rw [Command.read, read]
    rfl
  · intro saying member
    rcases List.mem_append.mp member with before | after
    · obtain ⟨flag, _, rfl⟩ := List.mem_map.mp before
      exact execLevel_offersRequest.knows flag
    · rcases List.mem_cons.mp after with rfl | after
      · exact execLevel_knows_execContent
      · obtain ⟨flag, _, rfl⟩ := List.mem_map.mp after
        exact execLevel_offersRequest.knows flag

end Command

namespace Invocation

theorem ofWords_command {name : String} (named : name ∈ Command.words) (words : List String) :
    ofWords (name :: words) = (Command.read name words).map fun command => { command } := by
  have isCommand : level.namesCommand name = true := by
    simp [Level.namesCommand, level, named]
  have notHelp : name ≠ Level.helpWord := by
    rintro rfl
    exact absurd named (by decide)
  have read : level.readWords { draft := { command := .list "text" } } false (name :: words) =
      .ok (_, some (name, words)) := Level.readWords_command rfl isCommand words
  simp only [ofWords, read, bind, Except.bind, notHelp, if_false]
  cases Command.read name words <;> rfl

/-- Every request can be said in words.  Flags for the fields that are set and for the
categories, in any order and with categories repeated, are accepted by each command that
simulates a request, and what is read describes the very request; a script to run may be
given in two forms, anywhere among the flags. -/
theorem request_said_in_words {context : RequestContext} (isSet : IsSlugSet context.categories)
    {slugs : List String} (sameSlugs : ∀ slug, slug ∈ slugs ↔ slug ∈ context.categories)
    {said : List RequestFlag} (anyOrder : said.Perm (context.flags slugs)) :
    ∃ request : RequestFlags, request.context = context ∧
      ofWords ("check" :: said.map RequestFlag.word) =
        .ok { command := .check none request } ∧
      ofWords ("render" :: said.map RequestFlag.word) =
        .ok { command := .render .footer false request } ∧
      ∀ before after, said = before ++ after → ∀ (text : String) (content : List String),
        (content = ["--content=" ++ text] ∨ content = ["--content", text] ∧
          ∀ c rest, text.toList ≠ '-' :: c :: rest) →
        ofWords ("exec" :: (before.map RequestFlag.word ++
          (content ++ after.map RequestFlag.word))) =
          .ok { command := .exec (.inline text) request } := by
  have apart : said.Pairwise RequestFlag.IsApart :=
    anyOrder.symm.pairwise (context.pairwise_flags slugs) RequestFlag.IsApart.symm
  refine ⟨said.foldl RequestFlag.apply {}, ?_, ?_, ?_, ?_⟩
  · rw [RequestFlag.context_foldl_apply, RequestContext.build_flags isSet sameSlugs anyOrder]
  · rw [ofWords_command (by decide), Command.read_check apart]
    rfl
  · rw [ofWords_command (by decide), Command.read_render apart]
    rfl
  · rintro before after rfl text content given
    have isContent : ContentDraft.contentOption.Says text content := by
      rcases given with rfl | ⟨rfl, free⟩
      · exact .attached text rfl
      · exact .apart rfl free
    rw [ofWords_command (by decide), Command.read_exec apart isContent]
    rfl

/-- An empty title, a slug that looks like a flag, the largest id and categories with dashes
and equals signs, one of them said twice, are no trouble. -/
theorem awkward_request_said_in_words :
    let context : RequestContext :=
      { isAdmin := true, resourceId := some 18446744073709551615, slug := some "--title=x"
        title := some "", type := some .other, categories := ["", "--admin", "a=b"] }
    ∃ request : RequestFlags, request.context = context ∧
      ofWords ["check", "--category=a=b", "--title=", "--category=--admin", "--type=other",
          "--category=", "--admin", "--resource-id=18446744073709551615", "--category=a=b",
          "--slug=--title=x"] = .ok { command := .check none request } ∧
      ofWords ["exec", "--category=a=b", "--title=", "--content", "-", "--category=--admin",
          "--type=other", "--category=", "--admin", "--resource-id=18446744073709551615",
          "--category=a=b", "--slug=--title=x"] =
        .ok { command := .exec (.inline "-") request } := by
  intro context
  let before : List RequestFlag := [.category "a=b", .title ""]
  let after : List RequestFlag :=
    [.category "--admin", .type .other, .category "", .admin, .resourceId 18446744073709551615,
      .category "a=b", .slug "--title=x"]
  have isSet : IsSlugSet context.categories := by decide +kernel
  have anyOrder : (before ++ after).Perm (context.flags ["a=b", "", "--admin", "a=b"]) := by
    decide +kernel
  obtain ⟨request, described, check, _, exec⟩ :=
    request_said_in_words isSet (by simp [context]) anyOrder
  have wordsBefore : before.map RequestFlag.word = ["--category=a=b", "--title="] := by
    decide +kernel
  have wordsAfter : after.map RequestFlag.word =
      ["--category=--admin", "--type=other", "--category=", "--admin",
        "--resource-id=18446744073709551615", "--category=a=b", "--slug=--title=x"] := by
    decide +kernel
  have run := exec before after rfl "-" ["--content", "-"] (.inr ⟨rfl, by simp⟩)
  rw [List.map_append, wordsBefore, wordsAfter] at check
  rw [wordsBefore, wordsAfter] at run
  exact ⟨request, described, check, run⟩

end Invocation

end PageInjection
