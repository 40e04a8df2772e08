import GrammarLoad.Proofs.Precedence

/-!
What a search finds can be bound. A search tests that its candidates are files, an opening tests
it again, and the loader takes only a path with a slash for a file at all. Every directory that is
searched has a name, so its candidates have a slash, and the three agree as long as the files stay
as they are. What is left to go wrong is the file itself: it may be no library, or a library
without the language function.
-/
namespace GrammarLoad

open Discovery Environment

theorem Path.isEmpty_join {p q : Path} (h : q.isEmpty = false) : (p.join q).isEmpty = false := by
  have hq : q.bytes ≠ [] := by simpa [isEmpty] using h
  unfold join
  split
  · exact h
  · split <;> simp [isEmpty, hq]

/-- A directory with a name has candidates that the loader takes for files. -/
theorem Discovery.hasSlash_of_mem_candidates {dir c : Path} (hdir : dir.isEmpty = false)
    (hc : c ∈ candidates dir) : c.hasSlash = true := by
  rcases List.mem_cons.mp hc with rfl | hc
  · exact Path.ofText_hasSlash_join (by decide) hdir
  · obtain rfl := List.mem_singleton.mp hc
    exact Path.ofText_hasSlash_join (by decide) hdir

theorem Environment.isEmpty_of_mem_searchPaths {e : Environment} {host : Host} {dir : Path}
    (h : dir ∈ e.searchPaths host) : dir.isEmpty = false := by
  have hgrammars : (Path.ofText "grammars").isEmpty = false := by decide
  have hlib : (Path.ofText "lib").isEmpty = false := by decide
  simp only [searchPaths, List.mem_append, Option.mem_toList, Option.map_eq_some_iff] at h
  rcases h with ((⟨r, -, rfl⟩ | ⟨cache, -, rfl⟩) | ⟨config, -, rfl⟩) | ⟨program, -, rfl⟩
  · exact Path.isEmpty_join hgrammars
  · exact Path.isEmpty_join hlib
  · exact Path.isEmpty_join hgrammars
  · exact Path.isEmpty_join hgrammars

namespace Loaded

/-- The library that an opening gets hold of: the one that is kept for the place of the path or,
if none is, the one that the loader gives for it. -/
def library? (loaded : Loaded) (files : FileTree) (p : Path) : Option Library :=
  (files.regularFile? p).bind fun f =>
    (loaded.at? (.of files p)).or (loaded.loadFile f p).toOption

end Loaded

namespace World

variable {w : World} {p : Path}

/-- How providing for a file ends. There is no library only if none is kept and the file is not one,
and a library is refused only if it lacks the language function. -/
structure Provides (w : World) (p : Path) : Prop where
  kind : ∀ e, (w.provide (.library p)).1 = .error e → e.kind = .load ∨ e.kind = .missingSymbol
  load : ∀ q source, (w.provide (.library p)).1 = .error (.load q source) →
    q = p ∧ w.loaded.at? (.of w.files p) = none ∧
      ∃ f bytes, w.files.regularFile? p = some f ∧ f.content = .data bytes ∧
        source = if bytes.length < 64 then .tooShort p else .notALibrary p
  of_none : w.loaded.library? w.files p = none →
    ∃ source, (w.provide (.library p)).1 = .error (.load p source)
  of_library : ∀ lib, w.loaded.library? w.files p = some lib →
    ((∃ g, (w.provide (.library p)).1 = .ok g) ↔ lib.entry ≠ .missing)

theorem provide_library_eq_error_iff {e : ProviderError} :
    (w.provide (.library p)).1 = .error e ↔ (w.loaded.openPath w.files p).1 = .error e := by
  rw [provide_eq_error_iff]
  simp only [Binding.library.injEq, exists_eq_left']
  rfl

theorem provide_library_isOk_iff :
    (∃ g, (w.provide (.library p)).1 = .ok g) ↔ ∃ g, (w.loaded.openPath w.files p).1 = .ok g := by
  change (∃ g, ((w.loaded.openPath w.files p).1).map Bound.library = .ok g) ↔ _
  cases (w.loaded.openPath w.files p).1 <;> simp [Except.map]

theorem provides_of_library {lib : Library}
    (hopen : (w.loaded.openPath w.files p).1 = LibraryGrammar.ofLibrary p lib)
    (hlibrary : w.loaded.library? w.files p = some lib) : w.Provides p := by
  have hmissing : ∀ e, (w.provide (.library p)).1 = .error e → e.kind = .missingSymbol := by
    intro e he
    rw [provide_library_eq_error_iff, hopen] at he
    obtain ⟨-, rfl⟩ := LibraryGrammar.ofLibrary_eq_error_iff.mp he
    rfl
  constructor
  · intro e he
    exact .inr (hmissing e he)
  · intro q source he
    exact nomatch hmissing _ he
  · intro hnone
    rw [hlibrary] at hnone
    cases hnone
  · intro lib' hlib
    rw [hlibrary] at hlib
    obtain rfl := Option.some.inj hlib
    rw [provide_library_isOk_iff, hopen]
    exact LibraryGrammar.ofLibrary_isOk_iff

theorem provides_of_load {f : RegularFile} {source : LoaderError}
    (hf : w.files.regularFile? p = some f) (hslash : p.hasSlash = true)
    (hkept : w.loaded.at? (.of w.files p) = none)
    (hload : w.loaded.loadFile f p = .error source)
    (hopen : (w.loaded.openPath w.files p).1 = .error (.load p source)) : w.Provides p := by
  have hfails : (w.provide (.library p)).1 = .error (.load p source) :=
    provide_library_eq_error_iff.mpr hopen
  have hlibrary : w.loaded.library? w.files p = none := by
    unfold Loaded.library?
    rw [hf, Option.bind_some, hkept, hload]
    rfl
  obtain ⟨bytes, hcontent, hsource⟩ := Loaded.loadFile_rules.eq_error hslash hload
  constructor
  · intro e he
    obtain rfl := Except.error.inj (hfails.symm.trans he)
    exact .inl rfl
  · intro q source' he
    obtain ⟨rfl, rfl⟩ := ProviderError.load.inj (Except.error.inj (hfails.symm.trans he))
    exact ⟨rfl, hkept, f, bytes, hf, hcontent, hsource⟩
  · intro _
    exact ⟨source, hfails⟩
  · intro lib hlib
    rw [hlibrary] at hlib
    cases hlib

theorem provides_of_file {f : RegularFile} (hf : w.files.regularFile? p = some f)
    (hslash : p.hasSlash = true) : w.Provides p := by
  have hlibrary : w.loaded.library? w.files p =
      (w.loaded.at? (.of w.files p)).or (w.loaded.loadFile f p).toOption := by
    unfold Loaded.library?
    rw [hf, Option.bind_some]
  rcases w.loaded.openPath_cases w.files p with
    ⟨hnone, -⟩ | ⟨g, hg, ⟨lib, hkept, ho⟩ | ⟨lib, hkept, hload, ho⟩ | ⟨e, hkept, hload, ho⟩⟩
  · rw [hf] at hnone
    cases hnone
  · refine provides_of_library (congrArg Prod.fst ho) ?_
    rw [hlibrary, hkept, Option.some_or]
  · obtain rfl := Option.some.inj (hf.symm.trans hg)
    refine provides_of_library (congrArg Prod.fst ho) ?_
    rw [hlibrary, hkept, hload]
    rfl
  · obtain rfl := Option.some.inj (hf.symm.trans hg)
    exact provides_of_load hf hslash hkept hload (congrArg Prod.fst ho)

/-- What a search chose is a file with a slash in its path. -/
theorem Searches.file_of_chooseBinding (h : w.Searches)
    (hchosen : w.chooseBinding = .ok (.library p)) :
    p.hasSlash = true ∧ ∃ f, w.files.regularFile? p = some f := by
  rw [h.chooseBinding_eq] at hchosen
  cases hfound : findLibrary w.files (w.environment.searchPaths w.host) with
  | error e =>
    rw [hfound] at hchosen
    cases hchosen
  | ok q =>
    rw [hfound] at hchosen
    obtain rfl : q = p := Binding.library.inj (Except.ok.inj hchosen)
    have hfirst := findLibrary_eq_ok_iff_find?.mp hfound
    obtain ⟨dir, hdir, hmem⟩ := List.mem_flatMap.mp (List.mem_of_find?_eq_some hfirst)
    exact ⟨hasSlash_of_mem_candidates (isEmpty_of_mem_searchPaths hdir) hmem,
      FileTree.isFile_iff.mp (List.find?_some hfirst)⟩

/-- A library that is not named can only be chosen by a search. -/
theorem searches_of_chooseBinding (hlacks : w.environment.Lacks libraryVariable)
    (hchosen : w.chooseBinding = .ok (.library p)) : w.Searches := by
  refine ⟨hlacks, ?_⟩
  by_cases habsent : w.linked = .absent
  · exact habsent
  · rw [chooseBinding_of_ne_absent hlacks habsent] at hchosen
    cases hchosen

/-- The path that a search chose is one that the loader takes for a file. In every world with the
same files, whatever is loaded there, it is provided for unless the file itself is at fault. -/
theorem chooseBinding_provides (hlacks : w.environment.Lacks libraryVariable)
    (hchosen : w.chooseBinding = .ok (.library p)) :
    p.hasSlash = true ∧ ∀ v : World, v.files = w.files → v.Provides p := by
  have hs : w.Searches := searches_of_chooseBinding hlacks hchosen
  obtain ⟨hslash, f, hf⟩ := hs.file_of_chooseBinding hchosen
  refine ⟨hslash, ?_⟩
  intro v hv
  exact provides_of_file (f := f) (by rw [hv, hf]) hslash

theorem chooseBinding_provides_twoPlaces :
    (Path.ofText "/e/grammars/gloss.so").hasSlash = true ∧
    ∃ g, (twoPlaces.provide (.library (.ofText "/e/grammars/gloss.so"))).1 = .ok g := by
  obtain ⟨hslash, hprovides⟩ :=
    chooseBinding_provides (w := twoPlaces) (by decide) chooseBinding_twoPlaces
  have hlibrary : twoPlaces.loaded.library? twoPlaces.files (.ofText "/e/grammars/gloss.so") =
      some ⟨4, .ofText "/e/grammars/gloss.so", .null⟩ := by decide +kernel
  exact ⟨hslash, ((hprovides twoPlaces rfl).of_library _ hlibrary).mpr nofun⟩

end World

end GrammarLoad
