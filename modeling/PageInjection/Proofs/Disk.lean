import PageInjection.Disk
import PageInjection.Proofs.Location

/-!
# Places that paths lead to

Whoever follows a path stands in a folder at every step.  So the place that is reached can
be written down again, as a path from the root without double points, and what stands there
is found under this path as well.
-/

namespace PageInjection.Disk

open Location (IsName EndsIn)

/-- A place with folders on the way to it, each under a name of its own. -/
structure IsReached (disk : Disk) (place : List String) : Prop where
  folders : ∀ front name back, place = front ++ name :: back → disk.at? front = some .folder
  isName : ∀ name ∈ place, IsName name

theorem isReached_nil (disk : Disk) : disk.IsReached [] where
  folders _ _ _ same := nomatch (List.append_eq_nil_iff.mp same.symm).2
  isName := by simp

variable {disk : Disk} {place next current : List String} {path name : String}

/-! ## Steps -/

theorem at?_of_step (stepped : disk.step place name = .ok next) :
    disk.at? place = some .folder := by
  unfold step at stepped
  split at stepped
  · assumption
  · exact nomatch stepped
  · exact nomatch stepped

theorem step_of_folder (folder : disk.at? place = some .folder) :
    disk.step place name = .ok (if name = ".." then place.dropLast else place ++ [name]) := by
  simp [step, folder]

theorem IsReached.append_singleton (reached : disk.IsReached place)
    (folder : disk.at? place = some .folder) (isName : IsName name) :
    disk.IsReached (place ++ [name]) where
  folders front other back same := by
    rcases List.eq_nil_or_concat back with rfl | ⟨back, last, rfl⟩
    · obtain ⟨rfl, _⟩ := List.append_inj' same rfl
      exact folder
    · have behind : place ++ [name] = (front ++ other :: back) ++ [last] := by simpa using same
      exact reached.folders front other back (List.append_inj' behind rfl).1
  isName := by
    simpa [or_imp, forall_and] using ⟨reached.isName, isName⟩

theorem IsReached.dropLast (reached : disk.IsReached place) : disk.IsReached place.dropLast where
  folders front name back same := by
    rcases List.eq_nil_or_concat place with rfl | ⟨lead, last, rfl⟩
    · exact nomatch (List.append_eq_nil_iff.mp same.symm).2
    · refine reached.folders front name (back ++ [last]) ?_
      have lead_eq : lead = front ++ name :: back := by simpa using same
      simp [lead_eq]
  isName name member := reached.isName name ((List.dropLast_sublist place).subset member)

/-- One step leads from a place that is reached to another one, the one that the name is
settled to. -/
theorem IsReached.step (reached : disk.IsReached place) (isName : name ≠ ".." → IsName name)
    (stepped : disk.step place name = .ok next) :
    disk.IsReached next ∧
      next.reverse = if name = ".." then place.reverse.drop 1 else name :: place.reverse := by
  have folder := at?_of_step stepped
  rw [step_of_folder folder, Except.ok.injEq] at stepped
  subst stepped
  by_cases above : name = ".."
  · simp [above, reached.dropLast]
  · simp [above, reached.append_singleton folder (isName above)]

/-- Many steps lead to the place that the names are settled to. -/
theorem IsReached.foldlM {names : List String} (reached : disk.IsReached place)
    (isName : ∀ name ∈ names, name ≠ ".." → IsName name)
    (walked : names.foldlM (disk.step ·) place = .ok next) :
    disk.IsReached next ∧
      next.reverse = names.foldl
        (fun done name => if name = ".." then done.drop 1 else name :: done) place.reverse := by
  induction names generalizing place with
  | nil =>
      obtain rfl := Except.ok.inj walked
      exact ⟨reached, rfl⟩
  | cons name names ih =>
      obtain ⟨first, rest⟩ := List.forall_mem_cons.mp isName
      cases stepped : disk.step place name with
      | error fault => simp [List.foldlM_cons, stepped, bind, Except.bind] at walked
      | ok middle =>
          obtain ⟨between, settled⟩ := reached.step first stepped
          -- What is settled so far is the place that the steps have reached, from behind.
          rw [List.foldl_cons, ← settled]
          have walkedOn : names.foldlM (disk.step ·) middle = .ok next := by
            simpa [List.foldlM_cons, stepped, bind, Except.bind] using walked
          exact ih between rest walkedOn

/-- The names of a place that is reached lead to it. -/
theorem IsReached.foldlM_eq (front back : List String) (reached : disk.IsReached (front ++ back)) :
    back.foldlM (disk.step ·) front = .ok (front ++ back) := by
  induction back generalizing front with
  | nil => simp [pure, Except.pure]
  | cons name back ih =>
      have folder := reached.folders front name back rfl
      have proper : name ≠ ".." := (reached.isName name (by simp)).notAbove
      have same : front ++ name :: back = (front ++ [name]) ++ back := by simp
      rw [List.foldlM_cons, step_of_folder folder, if_neg proper, same]
      exact ih _ (same ▸ reached)

/-! ## Paths -/

theorem namesFolder_eq_false (endsIn : EndsIn path name) (isName : IsName name) :
    namesFolder path = false := by
  have other (lead ending : String) (slashless : '/' ∉ ending.toList)
      (same : path = lead ++ "/" ++ ending) : name = ending := by
    subst same
    exact endsIn.unique ((Location.endsIn_of_slashless slashless).below lead)
  have slash : path.endsWith "/" = false := Bool.eq_false_iff.mpr fun ended => by
    obtain ⟨lead, same⟩ := Location.endsWith_iff.mp ended
    exact isName.filled (other lead "" (by simp) (by simpa using same))
  have point : path.endsWith "/." = false := Bool.eq_false_iff.mpr fun ended => by
    obtain ⟨lead, same⟩ := Location.endsWith_iff.mp ended
    have apart : "/." = "/" ++ "." := by decide
    exact isName.notHere (other lead "." (by decide) (by rw [same, apart, String.append_assoc]))
  have here : path ≠ "." := by
    rintro rfl
    exact isName.notHere (endsIn.unique (Location.endsIn_of_slashless (by decide)))
  simp [namesFolder, slash, point, here]

/-- A path that ends in a name is followed name by name, and nothing else happens. -/
theorem follow_eq (endsIn : EndsIn path name) (isName : IsName name) :
    disk.follow current path =
      (Location.names path).foldlM (disk.step ·) (start current path) := by
  have filled : path.isEmpty = false := by
    rw [Bool.eq_false_iff, ne_eq, String.isEmpty_iff]
    rintro rfl
    exact isName.filled (endsIn.unique (Location.endsIn_of_slashless (by simp)))
  rw [follow, namesFolder_eq_false endsIn isName, filled, if_neg Bool.false_ne_true]
  cases (Location.names path).foldlM (disk.step ·) (start current path) with
  | error fault => rfl
  | ok place => simp [bind, Except.bind, pure, Except.pure]

/-- What stands at a place that is reached is found under the path that its names make. -/
theorem IsReached.look_ofNames (reached : disk.IsReached place) (last : place.getLast? = some name)
    (followed : disk.follow current path = .ok place) (elsewhere : List String) :
    disk.look elsewhere (Location.ofNames true place) = disk.look current path := by
  have isName := reached.isName name (List.mem_of_getLast? last)
  have endsIn : EndsIn (Location.ofNames true place) name :=
    .ofNames (fun other member => (reached.isName other member).slashless) last
  have again : disk.follow elsewhere (Location.ofNames true place) = .ok place := by
    rw [follow_eq endsIn isName, Location.names_ofNames reached.isName, start,
      Location.isAbsolute_ofNames, if_pos rfl]
    exact IsReached.foldlM_eq [] place reached
  rw [look, look, again, followed]

end PageInjection.Disk
