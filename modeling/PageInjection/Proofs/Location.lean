import PageInjection.Location
import PageInjection.Proofs.Text.Piece

/-!
# Paths and the names in them

A path is cut at its slashes.  The last piece decides what the path is about: where it is a
proper name, the path names something in a folder, whatever stands before the name.
-/

namespace PageInjection.Location

/-- A name that stands for something of its own, and for nothing else, in a path. -/
structure IsName (name : String) : Prop where
  filled : name ≠ ""
  notHere : name ≠ "."
  notAbove : name ≠ ".."
  slashless : '/' ∉ name.toList

theorem pieces_append_slash (front back : String) :
    pieces (front ++ "/" ++ back) = pieces front ++ pieces back := by
  have cut : (front ++ "/" ++ back).toList = front.toList ++ '/' :: back.toList := by simp
  rw [pieces, cut, Text.splitOn_append_cons, List.map_append, pieces, pieces]

theorem pieces_eq_singleton {name : String} (slashless : '/' ∉ name.toList) :
    pieces name = [name] := by
  rw [pieces, Text.splitOn_of_not_mem slashless, List.map_singleton, String.ofList_toList]

theorem slashless_of_mem_pieces {path piece : String} (member : piece ∈ pieces path) :
    '/' ∉ piece.toList := by
  obtain ⟨text, inside, rfl⟩ := List.mem_map.mp member
  rw [String.toList_ofList]
  exact (Text.mem_splitOn_iff.mp inside).1

theorem isName_of_mem_names {path name : String} (member : name ∈ names path)
    (notAbove : name ≠ "..") : IsName name := by
  simp only [names, List.mem_filter, Bool.and_eq_true, bne_iff_ne] at member
  exact ⟨member.2.1, member.2.2, notAbove, slashless_of_mem_pieces member.1⟩

theorem endsWith_iff {text ending : String} :
    text.endsWith ending = true ↔ ∃ lead, text = lead ++ ending := by
  rw [← String.endsWith_toSlice, String.Slice.endsWith_string_iff, String.copy_toSlice]
  constructor
  · rintro ⟨lead, same⟩
    exact ⟨String.ofList lead, String.toList_inj.mp (by simp [same])⟩
  · rintro ⟨lead, rfl⟩
    exact ⟨lead.toList, by simp⟩

/-- A joined path has the pieces of both, less an empty one between them. -/
theorem pieces_join (root : String) {path : String} (relative : isAbsolute path = false) :
    ∃ front, pieces (join root path) = front ++ pieces path ∧
      front.filter (fun name => name != "" && name != ".") = names root := by
  by_cases empty : root = ""
  · subst empty
    exact ⟨[], by simp [join, relative], rfl⟩
  by_cases ended : root.endsWith "/" = true
  · obtain ⟨lead, rfl⟩ := endsWith_iff.mp ended
    refine ⟨pieces lead, ?_, ?_⟩
    · rw [join, relative, ended, Bool.or_true, if_pos rfl, if_neg Bool.false_ne_true,
        pieces_append_slash]
    · have same : lead ++ "/" = lead ++ "/" ++ "" := by simp
      have last : pieces "" = [""] := rfl
      rw [names, same, pieces_append_slash, List.filter_append, last]
      simp
  · refine ⟨pieces root, ?_, rfl⟩
    have filled : root.isEmpty = false := by simpa using empty
    rw [join, relative, Bool.not_eq_true _ |>.mp ended, filled, Bool.or_false,
      if_neg Bool.false_ne_true, if_neg Bool.false_ne_true, pieces_append_slash]

theorem names_join {root path : String} (relative : isAbsolute path = false) :
    names (join root path) = names root ++ names path := by
  obtain ⟨front, cut, same⟩ := pieces_join root relative
  rw [names, cut, List.filter_append, same]
  rfl

theorem join_of_isAbsolute (root : String) {path : String} (absolute : isAbsolute path = true) :
    join root path = path := by
  rw [join, if_pos absolute]

/-! ## The last piece -/

/-- A path ends in a name: the name is all that follows the last slash. -/
def EndsIn (path name : String) : Prop :=
  (pieces path).getLast? = some name

theorem EndsIn.unique {path name other : String} (endsIn : EndsIn path name)
    (again : EndsIn path other) : name = other :=
  Option.some.inj (endsIn.symm.trans again)

theorem EndsIn.join {path name : String} (endsIn : EndsIn path name) (root : String) :
    EndsIn (join root path) name := by
  cases absolute : isAbsolute path with
  | true => rwa [join_of_isAbsolute root absolute]
  | false =>
      obtain ⟨front, cut, _⟩ := pieces_join root absolute
      rw [EndsIn, cut, List.getLast?_append, show (pieces path).getLast? = some name from endsIn,
        Option.some_or]

theorem endsIn_of_slashless {name : String} (slashless : '/' ∉ name.toList) : EndsIn name name := by
  rw [EndsIn, pieces_eq_singleton slashless, List.getLast?_singleton]

theorem EndsIn.below {path name : String} (endsIn : EndsIn path name) (folder : String) :
    EndsIn (folder ++ "/" ++ path) name := by
  rw [EndsIn, pieces_append_slash, List.getLast?_append,
    show (pieces path).getLast? = some name from endsIn, Option.some_or]

/-- A text of its own has a last piece, which is empty only where the text is, or where it
ends in a slash; what follows the text follows that piece. -/
theorem exists_endsIn_append (text : String) : ∃ stem, '/' ∉ stem.toList ∧
    (stem = "" ↔ text = "" ∨ text.endsWith "/" = true) ∧
    ∀ ending : String, '/' ∉ ending.toList → EndsIn (text ++ ending) (stem ++ ending) := by
  -- The last slash is the first one from behind.
  by_cases slash : '/' ∈ text.toList.reverse
  · obtain ⟨back, front, cut, slashless⟩ := List.eq_append_cons_of_mem slash
    let folder := String.ofList front.reverse
    let stem := String.ofList back.reverse
    have bare : '/' ∉ stem.toList := by simpa [stem] using slashless
    have text_eq : text = folder ++ "/" ++ stem :=
      String.toList_inj.mp (by simpa [folder, stem] using congrArg List.reverse cut)
    have whole : EndsIn text stem := text_eq ▸ (endsIn_of_slashless bare).below folder
    refine ⟨stem, bare, ⟨fun empty => .inr (endsWith_iff.mpr ⟨folder, ?_⟩), ?_⟩, ?_⟩
    · rw [text_eq, empty, String.append_empty]
    · rintro (rfl | ended)
      · exact absurd slash (by simp)
      · obtain ⟨lead, same⟩ := endsWith_iff.mp ended
        have last : EndsIn text "" := by
          simpa [← same] using (@endsIn_of_slashless "" (by simp)).below lead
        exact whole.unique last
    · intro ending slashless
      rw [text_eq, String.append_assoc]
      exact (endsIn_of_slashless (by simp [bare, slashless])).below folder
  · have bare : '/' ∉ text.toList := by simpa using slash
    refine ⟨text, bare, ⟨.inl, ?_⟩, fun ending slashless =>
      endsIn_of_slashless (by simp [bare, slashless])⟩
    rintro (empty | ended)
    · exact empty
    · obtain ⟨lead, rfl⟩ := endsWith_iff.mp ended
      exact absurd bare (by simp)

variable {path name : String}

theorem EndsIn.getLast?_names (endsIn : EndsIn path name) (isName : IsName name) :
    (names path).getLast? = some name := by
  obtain ⟨front, cut⟩ := List.getLast?_eq_some_iff.mp endsIn
  rw [names, cut, List.filter_append]
  simp [isName.filled, isName.notHere]

theorem EndsIn.fileName?_eq (endsIn : EndsIn path name) (isName : IsName name) :
    fileName? path = some name := by
  rw [fileName?, endsIn.getLast?_names isName]
  simp [isName.notAbove]

/-- The ending of a name is what follows its last point, if the point does not begin it. -/
theorem EndsIn.extension?_eq {stem ending : String} (endsIn : EndsIn path (stem ++ "." ++ ending))
    (isName : IsName (stem ++ "." ++ ending)) (pointless : '.' ∉ ending.toList) :
    extension? path = if stem = "" then none else some ending := by
  have cut : (stem ++ "." ++ ending).toList = stem.toList ++ '.' :: ending.toList := by simp
  have reversed : (Text.splitOn '.' (stem ++ "." ++ ending).toList).reverse =
      ending.toList :: (Text.splitOn '.' stem.toList).reverse := by
    rw [cut, Text.splitOn_append_cons, Text.splitOn_of_not_mem pointless, List.reverse_append,
      List.reverse_singleton, List.singleton_append]
  rw [extension?, endsIn.fileName?_eq isName, Option.bind_some, reversed]
  by_cases empty : stem = ""
  · subst empty
    rfl
  · have whole : Text.splitOn '.' stem.toList ≠ [[]] := fun single =>
      empty (String.toList_eq_nil_iff.mp (Text.splitOn_eq_singleton_nil_iff.mp single))
    obtain ⟨lead, more, same⟩ := List.exists_cons_of_ne_nil
      (mt List.reverse_eq_nil_iff.mp (Text.splitOn_ne_nil '.' stem.toList))
    have proper : ¬ (lead = [] ∧ more = []) := by
      rintro ⟨rfl, rfl⟩
      exact whole (List.reverse_eq_iff.mp same)
    simp [same, empty, proper]

/-! ## Paths from names -/

theorem isAbsolute_ofNames (names : List String) : isAbsolute (ofNames true names) = true := by
  rw [isAbsolute, String.startsWith_string_iff]
  exact ⟨("/".intercalate names).toList, by simp [ofNames]⟩

theorem pieces_intercalate {name : String} {list : List String}
    (slashless : ∀ other ∈ name :: list, '/' ∉ other.toList) :
    pieces ("/".intercalate (name :: list)) = name :: list := by
  induction list generalizing name with
  | nil =>
      rw [String.intercalate_singleton]
      exact pieces_eq_singleton (slashless name List.mem_cons_self)
  | cons next list ih =>
      obtain ⟨first, rest⟩ := List.forall_mem_cons.mp slashless
      rw [String.intercalate_cons_cons, pieces_append_slash, pieces_eq_singleton first, ih rest,
        List.singleton_append]

theorem pieces_ofNames {list : List String} (slashless : ∀ name ∈ list, '/' ∉ name.toList)
    (filled : list ≠ []) : pieces (ofNames true list) = "" :: list := by
  obtain ⟨name, list, rfl⟩ := List.exists_cons_of_ne_nil filled
  have rooted : ofNames true (name :: list) = "" ++ "/" ++ "/".intercalate (name :: list) := by
    simp [ofNames]
  have root : pieces "" = [""] := rfl
  rw [rooted, pieces_append_slash, root, pieces_intercalate slashless, List.singleton_append]

theorem names_ofNames {list : List String} (isName : ∀ name ∈ list, IsName name) :
    names (ofNames true list) = list := by
  by_cases filled : list = []
  · subst filled
    rfl
  · rw [names, pieces_ofNames (fun name member => (isName name member).slashless) filled]
    have kept : list.filter (fun name => name != "" && name != ".") = list :=
      List.filter_eq_self.mpr fun name member => by
        simp [(isName name member).filled, (isName name member).notHere]
    simpa using kept

theorem EndsIn.ofNames {list : List String} (slashless : ∀ name ∈ list, '/' ∉ name.toList)
    (last : list.getLast? = some name) : EndsIn (ofNames true list) name := by
  have filled : list ≠ [] := by
    rintro rfl
    exact nomatch last
  rw [EndsIn, pieces_ofNames slashless filled, List.getLast?_cons, last]
  rfl

end PageInjection.Location
