import PageInjection.Proofs.Markup.Whole

/-!
# Texts made of plain text and markup

A text may be written as plain text, whole elements, comments and other tags, one
after the other in any order, with an unfinished tag at its end.  Each pass takes
the pieces of one sort from end to end and spares all others, so that stripping
leaves the plain text and nothing else.
-/

namespace PageInjection.Markup

/-! ## The sorts of pieces -/

/-- Plain text: every `<` stands before a character of the same text that makes
neither a tag nor the name of an element with it. -/
structure IsPlain (text : List Char) : Prop where
  unopened : ∀ c, ['<', c] <:+: text → opensTag c = false ∧ c ≠ 'ſ'
  ended : text.getLast? ≠ some '<'

instance decidableIsPlain (text : List Char) : Decidable (IsPlain text) :=
  decidable_of_iff
    ((text.zip text.tail).all
        (fun pair => pair.1 != '<' || (!opensTag pair.2 && pair.2 != 'ſ')) = true ∧
      text.getLast? ≠ some '<') <| by
    constructor
    · rintro ⟨unopened, ended⟩
      refine ⟨?_, ended⟩
      intro c pair
      have checked := List.all_eq_true.mp unopened _ (pair_infix_iff.mp pair)
      simpa using checked
    · rintro ⟨unopened, ended⟩
      refine ⟨List.all_eq_true.mpr ?_, ended⟩
      rintro ⟨d, c⟩ member
      by_cases isOpen : d = '<'
      · subst isOpen
        simpa using unopened c (pair_infix_iff.mpr member)
      · simp [isOpen]

/-- A tag that opens neither a comment nor an element that goes with its content.
A closing tag on its own is one, whatever its name. -/
inductive IsOtherTag : List Char → Prop where
  | mk {opener : Char} {body : List Char} :
      opensTag opener = true → '<' ∉ body → '>' ∉ body →
      ¬ ['!', '-', '-'] <+: opener :: body →
      (∀ name : ElementName, ¬ name.letters <+: (opener :: body).map foldCase) →
      IsOtherTag ('<' :: opener :: (body ++ ['>']))

/-- What a text may end with: nothing, or a tag or comment that it does not finish. -/
inductive IsEnding : List Char → Prop where
  | nothing : IsEnding []
  | unfinished {opener : Char} {body : List Char} :
      opensTag opener = true → '<' ∉ body → '>' ∉ body →
      IsEnding ('<' :: opener :: body)

inductive PieceKind where
  | plain
  | element (name : ElementName)
  | comment
  | tag
deriving DecidableEq, Repr

def PieceKind.Admits : PieceKind → List Char → Prop
  | .plain => IsPlain
  | .element name => IsWholeElement name.letters
  | .comment => IsWholeComment
  | .tag => IsOtherTag

/-- A part of a text that is of one of the sorts as it stands. -/
structure Piece where
  kind : PieceKind
  text : List Char
  proper : kind.Admits text

/-- The text that consists of the pieces. -/
def written (pieces : List Piece) : List Char :=
  pieces.flatMap Piece.text

/-! ## What the pass over elements spares -/

theorem element_eq_none {name rest : List Char} (unread : word name rest = none) :
    element name ('<' :: rest) = none := by
  simp [element, unread]

theorem element_eq_none_of_unclosed {name text : List Char} (unclosed : '>' ∉ text) :
    element name text = none := by
  cases matched : element name text with
  | none => rfl
  | some after =>
      obtain ⟨rest, attributes, content, rfl, named, closed, _⟩ :=
        element_eq_some_iff.mp matched
      obtain ⟨front, _, rfl⟩ := throughClose_eq_some_iff.mp closed
      have inRest : '>' ∈ rest := (word_suffix named).subset (by simp)
      exact absurd (List.mem_cons_of_mem '<' inRest) unclosed

theorem isLower_foldCase_of_opensTag {c : Char} (closed : opensTag c = false)
    (notLong : c ≠ 'ſ') : (foldCase c).isLower = false := by
  have unlettered : c.isAlpha = false := by
    simp only [opensTag, Bool.or_eq_false_iff] at closed
    exact closed.1.1.1
  have unchanged : c.toLower = c := (Text.toLower_eq_iff unlettered).mpr rfl
  simpa [foldCase, notLong, unchanged] using (Bool.or_eq_false_iff.mp unlettered).2

theorem IsPlain.tail {c : Char} {text : List Char} (plain : IsPlain (c :: text)) :
    IsPlain text where
  unopened := fun d pair => plain.unopened d (pair.trans (List.suffix_cons c text).isInfix)
  ended := by
    cases text with
    | nil => simp
    | cons d text => simpa using plain.ended

/-- Plain text stays where every match needs a character behind its `<` that plain
text does not have there. -/
theorem IsPlain.spares {pattern : Pattern} (starts : pattern.StartsOpen)
    (refuses : ∀ c rest, opensTag c = false → c ≠ 'ſ' → pattern ('<' :: c :: rest) = none)
    {text : List Char} (plain : IsPlain text) : pattern.Spares text := by
  intro rest
  induction text with
  | nil => rfl
  | cons c text ih =>
      have refused : pattern (c :: (text ++ rest)) = none := by
        by_cases opening : c = '<'
        · subst opening
          cases text with
          | nil => exact absurd rfl plain.ended
          | cons d text =>
              have pair : ['<', d] <+: '<' :: d :: text := List.prefix_append ['<', d] text
              obtain ⟨closed, notLong⟩ := plain.unopened d pair.isInfix
              exact refuses d (text ++ rest) closed notLong
        · exact starts.eq_none opening (text ++ rest)
      rw [List.cons_append, removeMatches_cons_of_none refused, ih plain.tail]
      rfl

theorem IsPlain.spares_element {name text : List Char} (named : IsName name)
    (plain : IsPlain text) : (element name).Spares text := by
  apply plain.spares (startsOpen_element name)
  intro c rest closed notLong
  have unlettered := isLower_foldCase_of_opensTag closed notLong
  exact element_eq_none (word_cons_eq_none named unlettered rest)

theorem IsWholeElement.spares_element {name other : ElementName} (different : name ≠ other)
    {part : List Char} (whole : IsWholeElement other.letters part) :
    (element name.letters).Spares part := by
  have starts := startsOpen_element name.letters
  cases whole with
  | @mk opening attributes content closing blanks opens unopened unclosed closed closes blank =>
      have noOpen : '<' ∉ opening := not_mem_of_toLower other.isName opens (by decide)
      have noOpenLater : '<' ∉ closing := not_mem_of_toLower other.isName closes (by decide)
      have noOpenBlank : '<' ∉ blanks := fun member =>
        absurd (blank '<' member) (by decide)
      -- Each of its two tags has a `<`, and another name stands behind the first one.
      have first : (element name.letters).Spares ('<' :: (opening ++ attributes ++ ['>'])) := by
        apply starts.spares_open (by simp [noOpen, unopened])
        intro rest
        apply element_eq_none
        rw [word_eq_none_iff name.isName.2]
        simpa [map_foldCase_of_toLower other.isName opens] using
          ElementName.not_prefix different ((attributes ++ '>' :: rest).map foldCase)
      have last : (element name.letters).Spares ('<' :: '/' :: (closing ++ blanks ++ ['>'])) := by
        apply starts.spares_open (by simp [noOpenLater, noOpenBlank])
        intro rest
        exact element_eq_none (word_cons_eq_none name.isName (by decide) _)
      exact (first.append (starts.spares closed)).append last

theorem IsWholeComment.spares_element {name part : List Char} (named : IsName name)
    (whole : IsWholeComment part) : (element name).Spares part := by
  cases whole with
  | @mk inside unopened _ =>
      apply (startsOpen_element name).spares_open (by simp [unopened])
      intro rest
      exact element_eq_none (word_cons_eq_none named (by decide) _)

theorem open_not_mem_unfinished {opener : Char} {body : List Char}
    (opens : opensTag opener = true) (unopened : '<' ∉ body) : '<' ∉ opener :: body := by
  have different : '<' ≠ opener := by
    rintro rfl
    exact absurd opens (by decide)
  simp [different, unopened]

/-- A tag stays when what stands in it up to its `>` begins no match. -/
theorem Pattern.StartsOpen.spares_tag {pattern : Pattern} (starts : pattern.StartsOpen)
    {opener : Char} {body : List Char} (opens : opensTag opener = true)
    (unopened : '<' ∉ body)
    (refused : ∀ rest, pattern ('<' :: (opener :: body ++ '>' :: rest)) = none) :
    pattern.Spares ('<' :: opener :: (body ++ ['>'])) := by
  have noOpen : '<' ∉ opener :: (body ++ ['>']) := by
    simpa using open_not_mem_unfinished opens unopened
  apply starts.spares_open noOpen
  intro rest
  simpa using refused rest

theorem IsOtherTag.spares_element {part : List Char} (proper : IsOtherTag part)
    (name : ElementName) : (element name.letters).Spares part := by
  cases proper with
  | mk opens unopened _ _ unnamed =>
      apply (startsOpen_element name.letters).spares_tag opens unopened
      intro rest
      exact element_eq_none (word_append_close name.isName (unnamed name) rest)

/-! ## What the pass over comments spares -/

theorem comment_eq_none {rest : List Char} (unopened : ¬ ['!', '-', '-'] <+: rest) :
    comment ('<' :: rest) = none := by
  cases matched : comment ('<' :: rest) with
  | none => rfl
  | some after =>
      obtain ⟨inside, split, _⟩ := comment_eq_some_iff.mp matched
      obtain ⟨_, rfl⟩ := List.cons.inj split
      exact absurd (List.prefix_append ['!', '-', '-'] inside) unopened

theorem IsPlain.spares_comment {text : List Char} (plain : IsPlain text) :
    Pattern.Spares comment text := by
  apply plain.spares startsOpen_comment
  intro c rest closed _
  apply comment_eq_none
  intro begins
  obtain ⟨rfl, _⟩ := List.cons_prefix_cons.mp begins
  exact absurd closed (by decide)

theorem IsOtherTag.spares_comment {part : List Char} (proper : IsOtherTag part) :
    Pattern.Spares comment part := by
  cases proper with
  | mk opens unopened _ uncommented _ =>
      apply startsOpen_comment.spares_tag opens unopened
      intro rest
      apply comment_eq_none
      intro begins
      exact uncommented (prefix_of_prefix_append_cons (by decide) begins)

/-! ## Passes over pieces -/

/-- A pass takes parts of one kind and spares those of the others. -/
def Pattern.Sorts (pattern : Pattern) (gone kind : PieceKind) (part : List Char) : Prop :=
  if kind = gone then pattern.Takes part else pattern.Spares part

theorem sorts_element (name : ElementName) {kind : PieceKind} {part : List Char}
    (proper : kind.Admits part) :
    (element name.letters).Sorts (.element name) kind part := by
  cases kind with
  | plain => exact IsPlain.spares_element name.isName proper
  | element other =>
      by_cases same : other = name
      · subst same
        simpa [Pattern.Sorts] using IsWholeElement.takes proper
      · simpa [Pattern.Sorts, same] using
          IsWholeElement.spares_element (Ne.symm same) proper
  | comment => exact IsWholeComment.spares_element name.isName proper
  | tag => exact IsOtherTag.spares_element proper name

theorem sorts_comment {kind : PieceKind} {part : List Char} (proper : kind.Admits part)
    (left : kind ∉ [.element .style, .element .script]) :
    Pattern.Sorts comment .comment kind part := by
  cases kind with
  | plain => exact IsPlain.spares_comment proper
  | element name => exact absurd (by cases name <;> simp) left
  | comment => exact IsWholeComment.takes proper
  | tag => exact IsOtherTag.spares_comment proper

theorem sorts_tag {kind : PieceKind} {part : List Char} (proper : kind.Admits part)
    (left : kind ∉ [.comment, .element .style, .element .script]) :
    Pattern.Sorts tag .tag kind part := by
  cases kind with
  | plain =>
      apply IsPlain.spares startsOpen_tag ?_ proper
      intro c rest closed _
      simp [tag, closed]
  | element name => exact absurd (by cases name <;> simp) left
  | comment => exact absurd (by simp) left
  | tag =>
      cases proper with
      | mk opens _ unclosed _ _ => exact removeMatches_tag_append (.mk opens unclosed)

/-- The pieces that are left when those of the given kinds are gone. -/
def without (kinds : List PieceKind) (pieces : List Piece) : List Piece :=
  pieces.filter fun piece => piece.kind ∉ kinds

theorem without_cons_of_mem {kinds : List PieceKind} {piece : Piece}
    (gone : piece.kind ∈ kinds) (pieces : List Piece) :
    without kinds (piece :: pieces) = without kinds pieces := by
  simp [without, gone]

theorem without_cons_of_not_mem {kinds : List PieceKind} {piece : Piece}
    (left : piece.kind ∉ kinds) (pieces : List Piece) :
    without kinds (piece :: pieces) = piece :: without kinds pieces := by
  simp [without, left]

theorem written_cons (piece : Piece) (pieces : List Piece) :
    written (piece :: pieces) = piece.text ++ written pieces := rfl

/-- A pass that takes one kind and spares the others leaves the pieces of those,
with nothing between them changed. -/
theorem removeMatches_written {pattern : Pattern} {gone : PieceKind}
    {kinds : List PieceKind}
    (sorts : ∀ {kind part}, kind.Admits part → kind ∉ kinds → pattern.Sorts gone kind part)
    (pieces : List Piece) (rest : List Char) :
    removeMatches pattern (written (without kinds pieces) ++ rest) =
      written (without (gone :: kinds) pieces) ++ removeMatches pattern rest := by
  induction pieces with
  | nil => rfl
  | cons piece pieces ih =>
      -- The piece went with an earlier pass, or this pass takes it or spares it.
      by_cases left : piece.kind ∈ kinds
      · rw [without_cons_of_mem left, without_cons_of_mem (List.mem_cons_of_mem gone left), ih]
      · have sorted := sorts piece.proper left
        by_cases same : piece.kind = gone
        · have takes : pattern.Takes piece.text := by simpa [Pattern.Sorts, same] using sorted
          have taken : piece.kind ∈ gone :: kinds := by simp [same]
          rw [without_cons_of_not_mem left, without_cons_of_mem taken, written_cons,
            List.append_assoc, takes, ih]
        · have spares : pattern.Spares piece.text := by simpa [Pattern.Sorts, same] using sorted
          have spared : piece.kind ∉ gone :: kinds := by simp [same, left]
          rw [without_cons_of_not_mem left, without_cons_of_not_mem spared, written_cons,
            written_cons, List.append_assoc, spares, ih, List.append_assoc]

/-! ## Unfinished ends -/

theorem IsEnding.removeMatches_element {ending : List Char} (ends : IsEnding ending)
    (name : List Char) : removeMatches (element name) ending = ending := by
  cases ends with
  | nothing => rfl
  | @unfinished opener body opens unopened unclosed =>
      have refused : element name ('<' :: opener :: body) = none :=
        element_eq_none_of_unclosed (close_not_mem_unfinished opens unclosed)
      exact (startsOpen_element name).removeMatches_open
        (open_not_mem_unfinished opens unopened) refused

/-- A comment that does not end goes in its own pass, any other end with the tags. -/
theorem IsEnding.removeMatches_tag_comment {ending : List Char} (ends : IsEnding ending) :
    removeMatches tag (removeMatches comment ending) = [] := by
  cases ends with
  | nothing => rfl
  | @unfinished opener body opens unopened unclosed =>
      by_cases commented : ['!', '-', '-'] <+: opener :: body
      · obtain ⟨inside, split⟩ := commented
        have unclosedThere : '>' ∉ inside := fun member =>
          close_not_mem_unfinished opens unclosed (by simp [← split, member])
        have matched : comment ('<' :: opener :: body) = some [] := by
          rw [← split]
          exact congrArg some (throughCommentEnd_of_not_mem unclosedThere)
        have gone := removeMatches_cons_of_some (opener :: body) []
          (by simpa using matched)
        rw [List.append_nil] at gone
        rw [gone]
        rfl
      · rw [startsOpen_comment.removeMatches_open (open_not_mem_unfinished opens unopened)
          (comment_eq_none commented)]
        exact removeMatches_tag_unfinished opens unclosed

/-! ## Stripping -/

theorem removeMatches_element_written (name : ElementName) (kinds : List PieceKind)
    (pieces : List Piece) {ending : List Char} (ends : IsEnding ending) :
    removeMatches (element name.letters) (written (without kinds pieces) ++ ending) =
      written (without (.element name :: kinds) pieces) ++ ending := by
  rw [removeMatches_written (fun proper _ => sorts_element name proper),
    ends.removeMatches_element]

theorem without_nil (pieces : List Piece) : without [] pieces = pieces := by
  simp [without]

theorem without_all_but_plain (pieces : List Piece) :
    without [.tag, .comment, .element .style, .element .script] pieces =
      pieces.filter (·.kind = .plain) := by
  apply List.filter_congr
  intro piece _
  rcases piece.kind with _ | (_ | _) | _ | _ <;> decide

/-- Stripping a text that is made of pieces, and may break off in a tag or comment
at its end, leaves the plain pieces and trims what they make together. -/
theorem strip_written (pieces : List Piece) {ending : List Char} (ends : IsEnding ending) :
    strip (written pieces ++ ending) =
      Text.trim (written (pieces.filter (·.kind = .plain))) := by
  have scripts : removeMatches (element scriptName) (written pieces ++ ending) =
      written (without [.element .script] pieces) ++ ending := by
    have pass := removeMatches_element_written .script [] pieces ends
    rwa [without_nil] at pass
  have styles : removeMatches (element styleName)
      (written (without [.element .script] pieces) ++ ending) =
        written (without [.element .style, .element .script] pieces) ++ ending :=
    removeMatches_element_written .style [.element .script] pieces ends
  have comments := removeMatches_written sorts_comment pieces ending
  have tags := removeMatches_written sorts_tag pieces (removeMatches comment ending)
  rw [ends.removeMatches_tag_comment, List.append_nil, without_all_but_plain] at tags
  rw [strip, scripts, styles, comments, tags]

/-- Comparisons and shifts stay among all sorts of markup, closing tags without an
element and a comment without an end. -/
theorem strip_of_comparisons_among_markup :
    IsEnding "<!-- e".toList ∧
      strip (" a < b<SCRIPT x>1 > 0</sCript >, 1 << 2</style><!-- d -->;".toList ++
        "<!-- e".toList) = "a < b, 1 << 2;".toList := by
  have ends : IsEnding "<!-- e".toList :=
    .unfinished (by decide +kernel) (by decide +kernel) (by decide +kernel)
  let scriptPiece : Piece :=
    ⟨.element .script, _, @IsWholeElement.mk scriptName "SCRIPT".toList " x".toList
      "1 > 0".toList "sCript".toList " ".toList (by decide +kernel) (by decide +kernel)
      (by decide +kernel) (by decide +kernel) (by decide +kernel)
      (List.all_eq_true.mp (by decide +kernel))⟩
  let closingPiece : Piece :=
    ⟨.tag, _, @IsOtherTag.mk '/' "style".toList (by decide +kernel) (by decide +kernel)
      (by decide +kernel) (by decide +kernel) (fun name => by cases name <;> decide +kernel)⟩
  let commentPiece : Piece :=
    ⟨.comment, _, @IsWholeComment.mk " d ".toList (by decide +kernel) (by decide +kernel)⟩
  let plain (text : String) (proper : IsPlain text.toList) : Piece :=
    ⟨.plain, text.toList, proper⟩
  let pieces : List Piece :=
    [plain " a < b" (by decide +kernel), scriptPiece, plain ", 1 << 2" (by decide +kernel),
      closingPiece, commentPiece, plain ";" (by decide +kernel)]
  have whole : written pieces =
      " a < b<SCRIPT x>1 > 0</sCript >, 1 << 2</style><!-- d -->;".toList := by decide +kernel
  have kept : Text.trim (written (pieces.filter (·.kind = .plain))) =
      "a < b, 1 << 2;".toList := by decide +kernel
  refine ⟨ends, ?_⟩
  rw [← whole, ← kept]
  exact strip_written pieces ends

end PageInjection.Markup
