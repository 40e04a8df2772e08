import GrammarLoad.Proofs.ConfiguredRun
import GrammarLoad.Proofs.Search

/-!
Which binding is chosen. A library that is named in the environment comes first, whatever else
there is, and then the linked grammar, whatever is on the disk. Only where there is neither are
the directories searched. A runtime directory is searched before all others, so naming one may put
a library in front of the rest, but takes none away.
-/
namespace GrammarLoad

open Discovery Environment

namespace Environment

variable {e : Environment} {name : String}

/-- The variable is unset or empty. -/
def Lacks (e : Environment) (name : String) : Prop := e name = none ∨ e name = some []

instance (e : Environment) (name : String) : Decidable (e.Lacks name) :=
  inferInstanceAs (Decidable (_ ∨ _))

theorem path?_of_ne_nil {bytes : List UInt8} (h : e name = some bytes) (hne : bytes ≠ []) :
    e.path? name = some ⟨bytes⟩ := by
  simp [path?, h, hne]

theorem path?_set_of_ne {k : String} (value : Option (List UInt8)) (h : k ≠ name) :
    (e.set name value).path? k = e.path? k := by
  unfold path?
  rw [set_of_ne e value h]

/-- A user's directory does not depend on the runtime directory. -/
theorem userDir_set_runtime {fallback : String} (value : Option (List UInt8)) (host : Host)
    (h : name ≠ runtimeVariable) :
    (e.set runtimeVariable value).userDir host name fallback = e.userDir host name fallback := by
  have hhome : "HOME" ≠ runtimeVariable := by decide
  unfold userDir homeDir
  rw [path?_set_of_ne value h, path?_set_of_ne value hhome]

/-- Where a runtime directory has its libraries. -/
def runtimeGrammars (r : List UInt8) : Path := (Path.mk r).join (.ofText "grammars")

/-- A runtime directory is one more directory to search, before the others. -/
theorem searchPaths_set_runtime (h : e.Lacks runtimeVariable) {r : List UInt8} (hr : r ≠ [])
    (host : Host) :
    (e.set runtimeVariable (some r)).searchPaths host =
      runtimeGrammars r :: e.searchPaths host := by
  have hnone : e.path? runtimeVariable = none := path?_eq_none_iff.mpr h
  have hsome : (e.set runtimeVariable (some r)).path? runtimeVariable = some ⟨r⟩ :=
    path?_of_ne_nil (set_self e runtimeVariable (some r)) hr
  have hcache : (e.set runtimeVariable (some r)).cacheDir host = e.cacheDir host :=
    userDir_set_runtime (some r) host (by decide)
  have hconfig : (e.set runtimeVariable (some r)).configDir host = e.configDir host :=
    userDir_set_runtime (some r) host (by decide)
  unfold searchPaths
  rw [hnone, hsome, hcache, hconfig]
  rfl

end Environment

namespace World

variable {w : World}

/-- The same world with a runtime directory named. -/
def withRuntime (w : World) (r : List UInt8) : World :=
  { w with environment := w.environment.set runtimeVariable (some r) }

/-- No library is named and no grammar is linked, so that it is left to a search. -/
structure Searches (w : World) : Prop where
  unnamed : w.environment.Lacks libraryVariable
  unlinked : w.linked = .absent

/-- What a search comes to when a runtime directory is named: the first library of that directory
or, if it has none, what was found without it. -/
structure RuntimeFirst (w : World) (r : List UInt8) : Prop where
  preferred : ∀ c, (candidates (runtimeGrammars r)).find? w.files.isFile = some c →
    (w.withRuntime r).chooseBinding = .ok (.library c)
  unchanged : (∀ c ∈ candidates (runtimeGrammars r), w.files.isFile c = false) →
    ∀ b, w.chooseBinding = .ok b → (w.withRuntime r).chooseBinding = .ok b
  listed : (∀ c ∈ candidates (runtimeGrammars r), w.files.isFile c = false) →
    ∀ searched, w.chooseBinding = .error (.notFound searched) →
      (w.withRuntime r).chooseBinding =
        .error (.notFound (candidates (runtimeGrammars r) ++ searched))
  kept : (∃ b, w.chooseBinding = .ok b) → ∃ b, (w.withRuntime r).chooseBinding = .ok b

namespace Searches

theorem chooseBinding_eq (h : w.Searches) :
    w.chooseBinding =
      (findLibrary w.files (w.environment.searchPaths w.host)).map .library :=
  chooseBinding_of_search (path?_eq_none_iff.mpr h.unnamed)
    (LinkedGrammar.isAvailable_eq_false_iff.mpr h.unlinked)

theorem withRuntime (h : w.Searches) (r : List UInt8) : (w.withRuntime r).Searches := by
  have hne : libraryVariable ≠ runtimeVariable := by decide
  have hsame : (w.withRuntime r).environment libraryVariable = w.environment libraryVariable :=
    set_of_ne w.environment (some r) hne
  refine ⟨?_, h.unlinked⟩
  unfold Lacks
  rw [hsame]
  exact h.unnamed

/-- The runtime directory is searched first, and then the search goes on as without it. -/
theorem chooseBinding_withRuntime (h : w.Searches)
    (hlacks : w.environment.Lacks runtimeVariable) {r : List UInt8} (hr : r ≠ []) :
    (w.withRuntime r).chooseBinding =
      match (candidates (runtimeGrammars r)).find? w.files.isFile with
      | some c => .ok (.library c)
      | none => w.chooseBinding.mapError (searchedAfter (candidates (runtimeGrammars r))) := by
  have hpaths : (w.withRuntime r).environment.searchPaths w.host =
      [runtimeGrammars r] ++ w.environment.searchPaths w.host :=
    searchPaths_set_runtime hlacks hr w.host
  have hone : allCandidates [runtimeGrammars r] = candidates (runtimeGrammars r) :=
    List.flatMap_singleton ..
  have hsearch : (w.withRuntime r).chooseBinding =
      (findLibrary w.files ([runtimeGrammars r] ++ w.environment.searchPaths w.host)).map
        .library := by
    rw [← hpaths]
    exact (h.withRuntime r).chooseBinding_eq
  rw [hsearch, findLibrary_append, h.chooseBinding_eq]
  cases hfirst : (candidates (runtimeGrammars r)).find? w.files.isFile with
  | some c =>
    rw [findLibrary_eq_ok (hone ▸ hfirst)]
    rfl
  | none =>
    rw [findLibrary_eq_error (hone ▸ hfirst), hone]
    cases findLibrary w.files (w.environment.searchPaths w.host) <;> rfl

theorem runtimeFirst (h : w.Searches) (hlacks : w.environment.Lacks runtimeVariable)
    {r : List UInt8} (hr : r ≠ []) : w.RuntimeFirst r := by
  have hchoice := h.chooseBinding_withRuntime hlacks hr
  have hmissed : (∀ c ∈ candidates (runtimeGrammars r), w.files.isFile c = false) →
      (w.withRuntime r).chooseBinding =
        w.chooseBinding.mapError (searchedAfter (candidates (runtimeGrammars r))) := by
    intro hnone
    have hfind : (candidates (runtimeGrammars r)).find? w.files.isFile = none := by
      simpa [List.find?_eq_none] using hnone
    rw [hchoice, hfind]
  constructor
  · intro c hc
    rw [hchoice, hc]
  · intro hnone b hb
    rw [hmissed hnone, hb]
    rfl
  · intro hnone searched he
    rw [hmissed hnone, he]
    rfl
  · rintro ⟨b, hb⟩
    rw [hchoice, hb]
    cases (candidates (runtimeGrammars r)).find? w.files.isFile with
    | some c => exact ⟨.library c, rfl⟩
    | none => exact ⟨b, rfl⟩

end Searches

theorem chooseBinding_of_named {path : List UInt8}
    (h : w.environment libraryVariable = some path) (hne : path ≠ []) :
    w.chooseBinding = .ok (.library ⟨path⟩) :=
  chooseBinding_of_library (path?_of_ne_nil h hne)

theorem chooseBinding_of_ne_absent (hlacks : w.environment.Lacks libraryVariable)
    (h : w.linked ≠ .absent) : w.chooseBinding = .ok .linked := by
  have havailable : w.linked.isAvailable = true := by
    rw [← Bool.not_eq_false, LinkedGrammar.isAvailable_eq_false_iff]
    exact h
  exact chooseBinding_of_linked (path?_eq_none_iff.mpr hlacks) havailable

/-- A named library is chosen by its bytes alone, and else a linked grammar by its presence alone.
Else the choice is that of the search, in which a runtime directory goes before all others. -/
theorem chooseBinding_precedence (w : World) :
    (∀ path, w.environment libraryVariable = some path → path ≠ [] →
      w.chooseBinding = .ok (.library ⟨path⟩) ∧
      ∀ v : World, v.environment libraryVariable = some path →
        v.chooseBinding = w.chooseBinding) ∧
    (w.environment.Lacks libraryVariable → w.linked ≠ .absent →
      w.chooseBinding = .ok .linked ∧
      ∀ v : World, v.environment.Lacks libraryVariable → v.linked ≠ .absent →
        v.chooseBinding = w.chooseBinding) ∧
    (w.environment.Lacks libraryVariable → w.linked = .absent →
      w.chooseBinding =
        (findLibrary w.files (w.environment.searchPaths w.host)).map .library ∧
      (∀ e, w.chooseBinding = .error e →
        e = .notFound ((w.environment.searchPaths w.host).flatMap candidates)) ∧
      ∀ r, r ≠ [] → w.environment.Lacks runtimeVariable → w.RuntimeFirst r) := by
  refine ⟨?_, ?_, ?_⟩
  · intro path hpath hne
    refine ⟨chooseBinding_of_named hpath hne, ?_⟩
    intro v hv
    rw [chooseBinding_of_named hv hne, chooseBinding_of_named hpath hne]
  · intro hlacks hthere
    refine ⟨chooseBinding_of_ne_absent hlacks hthere, ?_⟩
    intro v hv hv'
    rw [chooseBinding_of_ne_absent hv hv', chooseBinding_of_ne_absent hlacks hthere]
  · intro hlacks habsent
    have hs : w.Searches := ⟨hlacks, habsent⟩
    exact ⟨hs.chooseBinding_eq, fun e he => (chooseBinding_eq_error_iff.mp he).2,
      fun r hr hruntime => hs.runtimeFirst hruntime hr⟩

/-- Libraries beside the program and, under the second name, in a runtime directory. -/
def twoPlaces : World :=
  let w := World.start (.ofText "/r") (.ofText "/e") .absent
  let beside := w.files.apply (.write (.ofText "/e/grammars/gloss.so") (.library .null))
  let second : Path := .ofText "/r/rt/grammars/libtree-sitter-gloss.so"
  { w with files := beside.apply (.write second (.library .missing)) }

theorem chooseBinding_twoPlaces :
    twoPlaces.chooseBinding = .ok (.library (.ofText "/e/grammars/gloss.so")) := by
  have hs : twoPlaces.Searches := ⟨by decide, rfl⟩
  have hfound : findLibrary twoPlaces.files
      (twoPlaces.environment.searchPaths twoPlaces.host) =
        .ok (.ofText "/e/grammars/gloss.so") :=
    findLibrary_eq_ok (by decide +kernel)
  rw [hs.chooseBinding_eq, hfound]
  rfl

theorem chooseBinding_precedence_twoPlaces :
    (twoPlaces.withRuntime (utf8 "rt/")).chooseBinding =
      .ok (.library (.ofText "rt/grammars/libtree-sitter-gloss.so")) ∧
    (twoPlaces.withRuntime (utf8 "/r")).chooseBinding =
      .ok (.library (.ofText "/e/grammars/gloss.so")) := by
  have hsearch := (chooseBinding_precedence twoPlaces).2.2 (by decide) rfl
  constructor
  · have hfirst := (hsearch.2.2 (utf8 "rt/") (by decide) (by decide)).preferred
    exact hfirst (.ofText "rt/grammars/libtree-sitter-gloss.so") (by decide +kernel)
  · have hsame := (hsearch.2.2 (utf8 "/r") (by decide) (by decide)).unchanged
    exact hsame (by decide +kernel) _ chooseBinding_twoPlaces

end World

end GrammarLoad
