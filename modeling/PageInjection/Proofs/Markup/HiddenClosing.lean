import PageInjection.Proofs.Markup.Closing
import PageInjection.Proofs.Markup.Removal

/-!
# Closing tags that removal brings into being

Removing the tags of a text joins what stood around them, so that a closing tag
may appear that the text did not hold.  `HidesClosing` says exactly when this
happens: a `<` that is no tag by itself stands directly before a tag, and what
follows, other tags apart, spells the rest of the closing tag.
-/

namespace PageInjection.Markup

/-- The text begins with the letters, in any ASCII case, when finished tags
before and between them are passed over. -/
inductive Spells : (letters text : List Char) → Prop where
  | nil {text : List Char} : Spells [] text
  | letter {letter c : Char} {letters text : List Char} :
      c.toLower = letter → Spells letters text →
      Spells (letter :: letters) (c :: text)
  | tag {letters piece text : List Char} :
      IsTag piece → Spells letters text → Spells letters (piece ++ text)

/-- Every tag that opens in the text ends in it. -/
def TagsEnd (text : List Char) : Prop :=
  ∀ front opener back, text = front ++ '<' :: opener :: back →
    opensTag opener = true → '>' ∈ back

/-- The text closes the named element once its tags are gone: outside of all
tags, a `<` stands directly before a tag, and `/` and the name follow with
nothing but tags between their letters. -/
def HidesClosing (name text : List Char) : Prop :=
  ∃ front gap back, text = front ++ '<' :: (gap ++ back) ∧
    TagsEnd front ∧ IsTag gap ∧ Spells ('/' :: name) back

/-- The text that the pass over the tags reads: script and style elements and
comments are gone. -/
def beforeTags (text : List Char) : List Char :=
  removeMatches comment <|
  removeMatches (element styleName) <|
  removeMatches (element scriptName) text

/-! ## Letters between tags -/

theorem spells_cons_iff {letter : Char} {letters text : List Char} :
    Spells (letter :: letters) text ↔
      (∃ c rest, text = c :: rest ∧ c.toLower = letter ∧ Spells letters rest) ∨
        ∃ piece rest, text = piece ++ rest ∧ IsTag piece ∧
          Spells (letter :: letters) rest := by
  constructor
  · intro spells
    cases spells with
    | letter same spells => exact .inl ⟨_, _, rfl, same, spells⟩
    | tag tagged spells => exact .inr ⟨_, _, rfl, tagged, spells⟩
  · rintro (⟨c, rest, rfl, same, spells⟩ | ⟨piece, rest, rfl, tagged, spells⟩)
    · exact .letter same spells
    · exact .tag tagged spells

/-- A tag in front is passed over. -/
theorem spells_tag_append_iff {letters piece : List Char} (plain : '<' ∉ letters)
    (tagged : IsTag piece) (rest : List Char) :
    Spells letters (piece ++ rest) ↔ Spells letters rest := by
  constructor
  · intro spells
    cases letters with
    | nil => exact .nil
    | cons letter letters =>
        rcases spells_cons_iff.mp spells with
          ⟨c, after, split, same, _⟩ | ⟨other, after, split, otherTagged, later⟩
        · obtain ⟨inner, rfl⟩ := tagged.exists_cons
          obtain ⟨rfl, _⟩ := List.cons.inj split
          exact absurd (by simp [← same]) plain
        · have first := tagged.tag_append rest
          rw [split, otherTagged.tag_append after] at first
          exact Option.some.inj first ▸ later
  · exact .tag tagged

/-- What is left begins with the letters that the text spells out between its
tags. -/
theorem Untagged.begins_iff {text kept : List Char} (untagged : Untagged text kept)
    {letters : List Char} (plain : '<' ∉ letters) :
    Begins letters kept ↔ Spells letters text := by
  induction untagged generalizing letters with
  | nil =>
      cases letters with
      | nil => exact ⟨fun _ => .nil, fun _ => trivial⟩
      | cons letter letters =>
          refine iff_of_false (fun begins => begins) ?_
          rw [spells_cons_iff]
          rintro (⟨c, rest, split, _⟩ | ⟨piece, rest, split, tagged, _⟩)
          · exact List.cons_ne_nil c rest split.symm
          · obtain ⟨inner, rfl⟩ := tagged.exists_cons
            exact List.cons_ne_nil '<' (inner ++ ['>'] ++ rest) split.symm
  | @keep c rest kept refused _ ih =>
      cases letters with
      | nil => exact ⟨fun _ => .nil, fun _ => trivial⟩
      | cons letter letters =>
          have tailPlain : '<' ∉ letters := fun member =>
            plain (List.mem_cons_of_mem _ member)
          rw [spells_cons_iff, Begins, ih tailPlain]
          constructor
          · rintro ⟨same, spells⟩
            exact .inl ⟨c, rest, rfl, same, spells⟩
          · rintro (⟨d, after, split, same, spells⟩ | ⟨piece, after, split, tagged, _⟩)
            · obtain ⟨rfl, rfl⟩ := List.cons.inj split
              exact ⟨same, spells⟩
            · rw [split, tagged.tag_append] at refused
              exact absurd refused (by simp)
  | @drop piece rest kept tagged _ ih =>
      rw [spells_tag_append_iff plain tagged, ih plain]
  | @cut opener body opens unclosed =>
      cases letters with
      | nil => exact ⟨fun _ => .nil, fun _ => trivial⟩
      | cons letter letters =>
          refine iff_of_false (fun begins => begins) ?_
          rw [spells_cons_iff]
          rintro (⟨c, rest, split, same, _⟩ | ⟨piece, rest, split, tagged, _⟩)
          · obtain ⟨rfl, _⟩ := List.cons.inj split
            exact absurd (by simp [← same]) plain
          · obtain ⟨inner, rfl⟩ := tagged.exists_cons
            have absent := close_not_mem_unfinished opens unclosed
            rw [split] at absent
            exact absent (by simp)

/-! ## Ended tags -/

@[simp] theorem tagsEnd_nil : TagsEnd [] := by
  intro front opener back split
  simp at split

theorem TagsEnd.of_append (front : List Char) {back : List Char} (ended : TagsEnd (front ++ back)) :
    TagsEnd back := by
  intro before opener after split opens
  exact ended (front ++ before) opener after (by simp [split]) opens

theorem TagsEnd.cons {c : Char} {text : List Char} (ended : TagsEnd text)
    (first : ∀ opener back, c = '<' → text = opener :: back →
      opensTag opener = true → '>' ∈ back) :
    TagsEnd (c :: text) := by
  intro front opener back split opens
  cases front with
  | nil =>
      obtain ⟨same, rest⟩ := List.cons.inj split
      exact first opener back same rest opens
  | cons d front => exact ended front opener back (List.cons.inj split).2 opens

/-- Whatever opens before a `>` has ended with it. -/
theorem TagsEnd.append_close {text : List Char} (ended : TagsEnd text)
    (front : List Char) : TagsEnd (front ++ '>' :: text) := by
  induction front with
  | nil => exact ended.cons fun _ _ open_ => absurd open_ (by decide)
  | cons c front ih =>
      refine ih.cons ?_
      rintro opener back - split opens
      cases front with
      | nil =>
          obtain ⟨rfl, _⟩ := List.cons.inj split
          exact absurd opens (by decide)
      | cons d front =>
          obtain ⟨_, rfl⟩ := List.cons.inj split
          simp

theorem IsTag.tagsEnd_append {piece : List Char} (tagged : IsTag piece)
    {text : List Char} (ended : TagsEnd text) : TagsEnd (piece ++ text) := by
  cases tagged with
  | @mk opener body opens inside =>
      simpa using ended.append_close ('<' :: opener :: body)

/-! ## Hidden closing tags -/

theorem opensTag_slash : opensTag '/' = true := by decide

theorem hidesClosing_cons_iff {name rest : List Char} {c : Char}
    (refused : tag (c :: rest) = none) :
    HidesClosing name (c :: rest) ↔
      (c = '<' ∧ Spells ('/' :: name) rest) ∨ HidesClosing name rest := by
  rw [tag_eq_none_iff] at refused
  constructor
  · rintro ⟨front, gap, back, split, ended, tagged, spells⟩
    cases front with
    | nil =>
        obtain ⟨same, rfl⟩ := List.cons.inj split
        exact .inl ⟨same, .tag tagged spells⟩
    | cons d front =>
        obtain ⟨rfl, rfl⟩ := List.cons.inj split
        exact .inr ⟨front, gap, back, rfl, .of_append [c] ended, tagged, spells⟩
  · rintro (⟨rfl, spells⟩ | ⟨front, gap, back, rfl, ended, tagged, spells⟩)
    · rcases spells_cons_iff.mp spells with
        ⟨d, after, rfl, same, _⟩ | ⟨gap, back, rfl, tagged, later⟩
      · have slash : d = '/' := toLower_eq_slash_iff.mp same
        have closed := refused d after rfl rfl
        exact absurd closed (by simp [slash, opensTag_slash])
      · exact ⟨[], gap, back, rfl, tagsEnd_nil, tagged, later⟩
    · refine ⟨c :: front, gap, back, rfl, ended.cons ?_, tagged, spells⟩
      rintro opener after same rfl opens
      have closed := refused opener _ same rfl
      exact absurd closed (by simp [opens])

/-- No `<` inside of a tag stands outside of all tags and directly before
another `<`. -/
theorem IsTag.no_open_inside {piece front inside : List Char} (tagged : IsTag piece)
    (ended : TagsEnd front) : piece ≠ front ++ '<' :: '<' :: inside := by
  rintro rfl
  cases front with
  | nil => exact absurd (tagged.tag_append []) (by simp [tag, opensTag])
  | cons c front =>
      generalize whole : c :: front ++ '<' :: '<' :: inside = piece at tagged
      cases tagged with
      | @mk opener body opens unclosed =>
          obtain ⟨rfl, later⟩ := List.cons.inj whole
          cases front with
          | nil =>
              obtain ⟨rfl, _⟩ := List.cons.inj later
              exact absurd opens (by decide)
          | cons d front =>
              obtain ⟨rfl, _⟩ := List.cons.inj later
              have closed : '>' ∈ front := ended [] d front rfl opens
              have split : front ++ '<' :: '<' :: inside = body ++ ['>'] :=
                (List.cons.inj later).2
              have bodySplit := congrArg List.dropLast split
              rw [List.dropLast_concat, List.dropLast_append_of_ne_nil (by simp)]
                at bodySplit
              exact unclosed (bodySplit ▸ List.mem_append_left _ closed)

theorem hidesClosing_tag_append_iff {name piece : List Char} (tagged : IsTag piece)
    (rest : List Char) :
    HidesClosing name (piece ++ rest) ↔ HidesClosing name rest := by
  constructor
  · rintro ⟨front, gap, back, split, ended, gapTagged, spells⟩
    rcases List.append_eq_append_iff.mp split with
      ⟨between, rfl, rfl⟩ | ⟨inside, pieceSplit, restSplit⟩
    · exact ⟨between, gap, back, rfl, .of_append _ ended, gapTagged, spells⟩
    · cases inside with
      | nil => exact ⟨[], gap, back, restSplit.symm, tagsEnd_nil, gapTagged, spells⟩
      | cons c inside =>
          obtain ⟨rfl, later⟩ := List.cons.inj restSplit
          cases inside with
          | nil =>
              obtain ⟨inner, rfl⟩ := tagged.exists_cons
              have last := congrArg List.getLast? pieceSplit
              rw [← List.cons_append, List.getLast?_concat, List.getLast?_concat] at last
              exact absurd last (by decide)
          | cons d inside =>
              obtain ⟨inner, rfl⟩ := gapTagged.exists_cons
              obtain ⟨rfl, _⟩ := List.cons.inj later
              exact absurd pieceSplit (tagged.no_open_inside ended)
  · rintro ⟨front, gap, back, rfl, ended, gapTagged, spells⟩
    exact ⟨piece ++ front, gap, back, by simp, tagged.tagsEnd_append ended,
      gapTagged, spells⟩

theorem Untagged.closes_iff {text kept : List Char} (untagged : Untagged text kept)
    {name : List Char} (named : IsName name) :
    Closes name kept ↔ HidesClosing name text := by
  induction untagged with
  | nil =>
      refine iff_of_false (not_closes_nil name) ?_
      rintro ⟨front, gap, back, split, _⟩
      simp at split
  | @keep c rest kept refused untagged ih =>
      have plain : '<' ∉ '/' :: name := by
        simpa using not_mem_of_isName named (show '<'.isLower = false by decide)
      rw [closes_cons_iff, hidesClosing_cons_iff refused, ih, untagged.begins_iff plain]
  | @drop piece rest kept tagged _ ih =>
      rw [hidesClosing_tag_append_iff tagged, ih]
  | @cut opener body opens unclosed =>
      refine iff_of_false (not_closes_nil name) ?_
      rintro ⟨front, gap, back, split, _, tagged, _⟩
      obtain ⟨inner, rfl⟩ := tagged.exists_cons
      have absent := close_not_mem_unfinished opens unclosed
      rw [split] at absent
      exact absent (by simp)

/-! ## Stripped content -/

theorem closes_strip_iff {name : List Char} (named : IsName name) (text : List Char) :
    Closes name (strip text) ↔ HidesClosing name (beforeTags text) := by
  have kept : strip text = Text.trim (removeMatches tag (beforeTags text)) := rfl
  rw [kept, closes_trim named]
  exact (untagged_removeMatches (beforeTags text)).closes_iff named

theorem toList_styleBlock (css : String) :
    (styleBlock css).toList =
      startTag styleName ++ strip css.toList ++ endTag styleName := by
  simp [styleBlock, startTag, endTag, styleName]

theorem toList_scriptBlock (js : String) :
    (scriptBlock js).toList =
      startTag scriptName ++ strip js.toList ++ endTag scriptName := by
  simp [scriptBlock, startTag, endTag, scriptName]

theorem isElement_styleBlock_iff (css : String) :
    IsElement styleName (styleBlock css).toList ↔
      ¬ HidesClosing styleName (beforeTags css.toList) := by
  rw [toList_styleBlock, isElement_block_iff isName_styleName,
    closes_strip_iff isName_styleName]

theorem isElement_scriptBlock_iff (js : String) :
    IsElement scriptName (scriptBlock js).toList ↔
      ¬ HidesClosing scriptName (beforeTags js.toList) := by
  rw [toList_scriptBlock, isElement_block_iff isName_scriptName,
    closes_strip_iff isName_scriptName]

end PageInjection.Markup
