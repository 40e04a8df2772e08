import GrammarLoad.Discovery

/-!
The search for a library goes through the directories in order, and through the names that a library
may have within each of them. It ends at the first file that it comes to. If it comes to none, it
has tried every name in every directory and lists them all.
-/
namespace GrammarLoad.Discovery

variable {files : FileTree} {dirs : List Path} {p : Path}

/-- A candidate of one of the directories is a file, and none before it is one, neither in the
directories before nor among the names before it in its own. -/
structure FirstMatch (files : FileTree) (dirs : List Path) (p : Path) : Prop where
  isFile : files.isFile p = true
  first : ∃ earlier dir later before after,
    dirs = earlier ++ dir :: later ∧ candidates dir = before ++ p :: after ∧
      (∀ d ∈ earlier, ∀ c ∈ candidates d, files.isFile c = false) ∧
      ∀ c ∈ before, files.isFile c = false

/-- What was searched before is listed first. -/
def searchedAfter (before : List Path) : ProviderError → ProviderError
  | .notFound searched => .notFound (before ++ searched)
  | e => e

theorem length_allCandidates (dirs : List Path) :
    (allCandidates dirs).length = 2 * dirs.length := by
  induction dirs with
  | nil => rfl
  | cons dir rest ih =>
    calc
      (allCandidates (dir :: rest)).length = 2 + (allCandidates rest).length := by
        rw [allCandidates, List.flatMap_cons, List.length_append]
        rfl
      _ = 2 * (dir :: rest).length := by
        rw [ih, List.length_cons]
        omega

/-- A search of more directories goes on where nothing was found before. -/
theorem findLibrary_append (files : FileTree) (dirs more : List Path) :
    findLibrary files (dirs ++ more) =
      match findLibrary files dirs with
      | .ok p => .ok p
      | .error _ => (findLibrary files more).mapError (searchedAfter (allCandidates dirs)) := by
  have hall : allCandidates (dirs ++ more) = allCandidates dirs ++ allCandidates more :=
    List.flatMap_append
  have hfind : (allCandidates (dirs ++ more)).find? files.isFile =
      ((allCandidates dirs).find? files.isFile).or ((allCandidates more).find? files.isFile) := by
    rw [hall, List.find?_append]
  cases hdirs : (allCandidates dirs).find? files.isFile with
  | some p =>
    rw [hdirs, Option.some_or] at hfind
    rw [findLibrary_eq_ok hfind, findLibrary_eq_ok hdirs]
  | none =>
    rw [hdirs, Option.none_or] at hfind
    rw [findLibrary_eq_error hdirs]
    cases hmore : (allCandidates more).find? files.isFile with
    | some p =>
      rw [hmore] at hfind
      rw [findLibrary_eq_ok hfind, findLibrary_eq_ok hmore]
      rfl
    | none =>
      rw [hmore] at hfind
      rw [findLibrary_eq_error hfind, findLibrary_eq_error hmore, hall]
      rfl

theorem findLibrary_eq_ok_iff_find? :
    findLibrary files dirs = .ok p ↔ (allCandidates dirs).find? files.isFile = some p := by
  cases h : (allCandidates dirs).find? files.isFile with
  | some q => rw [findLibrary_eq_ok h, Except.ok.injEq, Option.some.injEq]
  | none => simp [findLibrary_eq_error h]

/-- One directory is searched before the rest. -/
theorem findLibrary_cons_eq_ok_iff {dir : Path} :
    findLibrary files (dir :: dirs) = .ok p ↔
      (candidates dir).find? files.isFile = some p ∨
        (∀ c ∈ candidates dir, files.isFile c = false) ∧ findLibrary files dirs = .ok p := by
  have hcons : allCandidates (dir :: dirs) = candidates dir ++ allCandidates dirs :=
    List.flatMap_cons
  have hnone : (candidates dir).find? files.isFile = none ↔
      ∀ c ∈ candidates dir, files.isFile c = false := by
    simp [List.find?_eq_none]
  rw [findLibrary_eq_ok_iff_find?, findLibrary_eq_ok_iff_find?, hcons, List.find?_append,
    Option.or_eq_some_iff, hnone]

/-- The search of the directories one after the other finds the first match and nothing else. -/
theorem findLibrary_eq_ok_iff : findLibrary files dirs = .ok p ↔ FirstMatch files dirs p := by
  induction dirs with
  | nil =>
    constructor
    · intro h
      exact nomatch h
    · rintro ⟨-, earlier, dir, later, before, after, hdirs, -⟩
      exact absurd hdirs (by simp)
  | cons dir rest ih =>
    rw [findLibrary_cons_eq_ok_iff, ih]
    constructor
    · rintro (h | ⟨hnone, hp, earlier, d, later, before, after, rfl, hsplit, hearlier, hbefore⟩)
      · obtain ⟨hp, before, after, hsplit, hbefore⟩ := List.find?_eq_some_iff_append.mp h
        exact ⟨hp, [], dir, rest, before, after, rfl, hsplit, nofun, by simpa using hbefore⟩
      · refine ⟨hp, dir :: earlier, d, later, before, after, rfl, hsplit, ?_, hbefore⟩
        intro d' hd'
        rcases List.mem_cons.mp hd' with rfl | hd'
        · exact hnone
        · exact hearlier d' hd'
    · rintro ⟨hp, earlier, d, later, before, after, hdirs, hsplit, hearlier, hbefore⟩
      cases earlier with
      | nil =>
        obtain ⟨rfl, rfl⟩ := List.cons.inj hdirs
        left
        apply List.find?_eq_some_iff_append.mpr
        exact ⟨hp, before, after, hsplit, by simpa using hbefore⟩
      | cons first earlier =>
        obtain ⟨rfl, rfl⟩ := List.cons.inj hdirs
        right
        exact ⟨hearlier dir List.mem_cons_self, hp, earlier, d, later, before, after, rfl, hsplit,
          fun d' hd' => hearlier d' (List.mem_cons_of_mem dir hd'), hbefore⟩

theorem forall_mem_allCandidates {P : Path → Prop} :
    (∀ c ∈ allCandidates dirs, P c) ↔ ∀ dir ∈ dirs, ∀ c ∈ candidates dir, P c := by
  constructor
  · intro h dir hdir c hc
    exact h c (List.mem_flatMap.mpr ⟨dir, hdir, hc⟩)
  · intro h c hc
    obtain ⟨dir, hdir, hmem⟩ := List.mem_flatMap.mp hc
    exact h dir hdir c hmem

/-- The search finds the first match. It fails exactly if no candidate of any directory is a file,
and then lists the two candidates of each directory in order. A longer search is one search after
the other, with what the first one tried listed first. -/
theorem findLibrary_exhausts_in_order (files : FileTree) (dirs : List Path) :
    (∀ p, findLibrary files dirs = .ok p ↔ FirstMatch files dirs p) ∧
    (∀ e, findLibrary files dirs = .error e ↔
      (∀ dir ∈ dirs, ∀ c ∈ candidates dir, files.isFile c = false) ∧
        e = .notFound (dirs.flatMap candidates)) ∧
    (dirs.flatMap candidates).length = 2 * dirs.length ∧
    ∀ more, findLibrary files (dirs ++ more) =
      match findLibrary files dirs with
      | .ok p => .ok p
      | .error _ =>
        (findLibrary files more).mapError (searchedAfter (dirs.flatMap candidates)) := by
  refine ⟨fun p => findLibrary_eq_ok_iff, ?_, length_allCandidates dirs,
    findLibrary_append files dirs⟩
  intro e
  rw [findLibrary_eq_error_iff, forall_mem_allCandidates]
  rfl

end GrammarLoad.Discovery
