import GrammarLoad.Proofs.FileContent
import GrammarLoad.Proofs.Swap

/-!
What a failed opening leaves behind. Nothing, unless it got hold of a library of which it turned out
only then that it does not export the language function. That library is kept, and it is met by the
openings that come to its place, its path or its file.
-/
namespace GrammarLoad

/-- An opening comes to what a loading left: by its place, its path or the file it leads to. -/
def Opening.Meets (o : Opening) (a : Loading) : Prop :=
  o.key = a.key ∨ o.path = a.path ∨
    ∃ f, o.files.regularFile? o.path = some f ∧ f.id = a.library.file

namespace Loaded

/-- Both know the same, apart from one loading that the first has, and calls return the same with
either. -/
structure SameBut (a : Loading) (x y : Loaded) : Prop where
  at? : ∀ k, k ≠ a.key → x.at? k = y.at? k
  byPath? : ∀ p, p ≠ a.path → x.byPath? p = y.byPath? p
  byFile? : ∀ id, id ≠ a.library.file → x.byFile? id = y.byFile? id
  mapped : (x.byFile? a.library.file).isSome = true
  returns? : x.returns? = y.returns?

namespace SameBut

variable {a : Loading} {x y : Loaded}

/-- A library without the language function adds no call that returns. -/
theorem of_insert (x : Loaded) (ha : a.library.entry = .missing) :
    SameBut a (x.insert a.key a.path a.library) x := by
  refine ⟨?_, ?_, ?_, ?_, ?_⟩
  · intro k hk
    rw [at?_insert, if_neg (Ne.symm hk), Option.or_none]
  · intro p hp
    rw [byPath?_insert, if_neg (Ne.symm hp), Option.or_none]
  · intro id hid
    rw [byFile?_insert, if_neg (Ne.symm hid), Option.or_none]
  · rw [byFile?_insert, if_pos rfl]
    simp
  · funext id
    cases hid : x.byFile? id with
    | some lib => exact returns?_insert_of_mapped _ _ fun _ => by simp [hid]
    | none =>
      unfold Loaded.returns?
      rw [byFile?_insert, hid, Option.none_or]
      split <;> simp [ha, EntryPoint.returns?]

/-- What is added is of another file, or of a file that is mapped in both. -/
theorem insert (h : SameBut a x y) (k : Key) (p : Path) {lib : Library}
    (hlib : lib.file = a.library.file → (y.byFile? a.library.file).isSome = true) :
    SameBut a (x.insert k p lib) (y.insert k p lib) := by
  refine ⟨?_, ?_, ?_, ?_, ?_⟩
  · intro j hj
    rw [at?_insert, at?_insert, h.at? j hj]
  · intro q hq
    rw [byPath?_insert, byPath?_insert, h.byPath? q hq]
  · intro id hid
    rw [byFile?_insert, byFile?_insert, h.byFile? id hid]
  · rw [byFile?_insert, Option.isSome_or, h.mapped]
    rfl
  · funext id
    by_cases hid : id = a.library.file
    · subst hid
      rw [returns?_insert_of_mapped k p fun _ => h.mapped, returns?_insert_of_mapped k p hlib,
        h.returns?]
    · unfold Loaded.returns?
      rw [byFile?_insert, byFile?_insert, h.byFile? id hid]

/-- An opening that does not meet the loading ends the same, and they stay the same but for it. -/
theorem openPath (h : SameBut a x y) {o : Opening} (ho : ¬ o.Meets a) :
    (x.openPath o.files o.path).1 = (y.openPath o.files o.path).1 ∧
      SameBut a (x.openPath o.files o.path).2 (y.openPath o.files o.path).2 := by
  obtain ⟨hkey, hpath, hfile⟩ : o.key ≠ a.key ∧ o.path ≠ a.path ∧
      ¬ ∃ f, o.files.regularFile? o.path = some f ∧ f.id = a.library.file := by
    simpa only [Opening.Meets, not_or] using ho
  unfold Loaded.openPath
  cases hf : o.files.regularFile? o.path with
  | none => exact ⟨rfl, h⟩
  | some f =>
    have hid : f.id ≠ a.library.file := fun hid => hfile ⟨f, hf, hid⟩
    have hat : x.at? (.of o.files o.path) = y.at? (.of o.files o.path) := h.at? _ hkey
    have hload : x.loadFile f o.path = y.loadFile f o.path :=
      loadFile_rules.congr (h.byPath? _ hpath) (h.byFile? _ hid)
    unfold fetch
    simp only [hat, hload]
    cases y.at? (.of o.files o.path) with
    | some lib => exact ⟨rfl, h⟩
    | none =>
      cases hl : y.loadFile f o.path with
      | ok lib =>
        refine ⟨rfl, h.insert _ _ ?_⟩
        intro hsame
        rcases loadFile_rules.eq_ok hl with ⟨b, hb, rfl⟩ | ⟨-, hnew, -⟩
        · rw [← hsame]
          exact byFile?_isSome_of_mem hb
        · exact absurd (hnew.symm.trans hsame) hid
      | error e => exact ⟨rfl, h⟩

theorem agreesOn (h : SameBut a x y) {os : List Opening} (ho : ∀ o ∈ os, ¬ o.Meets a) :
    x.AgreesOn y os := by
  induction os generalizing x y with
  | nil => exact h.returns?
  | cons o rest ih =>
    obtain ⟨hend, hsame⟩ := h.openPath (ho o List.mem_cons_self)
    exact ⟨h.returns?, hend, ih hsame fun o' ho' => ho o' (List.mem_cons_of_mem o ho')⟩

end SameBut

variable {loaded : Loaded}

/-- A failed opening keeps nothing, or a library that does not export the language function. -/
theorem openPath_error_cases {files : FileTree} {p : Path} {e : ProviderError}
    (h : (loaded.openPath files p).1 = .error e) :
    (loaded.openPath files p).2 = loaded ∧
        (e.kind ≠ .missingSymbol ∨ ∃ lib, loaded.at? (.of files p) = some lib) ∨
      ∃ lib, lib.entry = .missing ∧ e.kind = .missingSymbol ∧
        loaded.at? (.of files p) = none ∧
        (loaded.openPath files p).2 = loaded.insert (.of files p) p lib := by
  rcases loaded.openPath_cases files p with
    ⟨-, ho⟩ | ⟨f, -, ⟨lib, hk, ho⟩ | ⟨lib, hk, -, ho⟩ | ⟨e', -, -, ho⟩⟩
  · rw [ho] at h ⊢
    obtain rfl := Except.error.inj h
    exact .inl ⟨rfl, .inl nofun⟩
  · rw [ho]
    exact .inl ⟨rfl, .inr ⟨lib, hk⟩⟩
  · rw [ho] at h ⊢
    obtain ⟨hentry, rfl⟩ := LibraryGrammar.ofLibrary_eq_error_iff.mp h
    exact .inr ⟨lib, hentry, rfl, hk, rfl⟩
  · rw [ho] at h ⊢
    obtain rfl := Except.error.inj h
    exact .inl ⟨rfl, .inl nofun⟩

end Loaded

namespace Session

/-- The session after an attempt to open a library into a slot. -/
def opened (s : Session) (p : Path) (slot : String) : Session :=
  (s.step (.openLibrary p slot)).after

theorem opened_of_error {s : Session} {p : Path} {e : ProviderError} (slot : String)
    (h : (s.world.openLibrary p).1 = .error e) :
    s.opened p slot = s.withLoaded (s.world.loaded.openPath s.world.files p).2 := by
  simp only [opened, Session.step, h]
  rfl

/-- A valid library is what the path leads to: one that exports the language function. -/
def Exports (t : Session) (p : Path) : Prop :=
  ∃ f entry, t.world.files.regularFile? p = some f ∧ f.content = .library entry ∧ entry ≠ .missing

/-- The library that is kept for the place of a path or else known to the loader by the path. -/
def known? (t : Session) (p : Path) : Option Library :=
  (t.world.loaded.at? (.of t.world.files p)).or (t.world.loaded.byPath? p)

/-- What a failed opening leaves that took `s` to `t`: a library without the language function.
Whatever does not meet it is told as without it. Where it is kept, opening goes on to fail. -/
structure Trace (s t : Session) (a : Loading) : Prop where
  entry : a.library.entry = .missing
  kept : t = s.withLoaded (s.world.loaded.insert a.key a.path a.library)
  told : ∀ steps, (∀ o ∈ s.scene.openings steps, ¬ o.Meets a) →
    (t.outcomes steps).map Outcome.told = (s.outcomes steps).map Outcome.told
  fails : ∀ steps q, (t.afterAll steps).world.files.isFile q = true →
    Key.of (t.afterAll steps).world.files q = a.key →
      ((t.afterAll steps).world.openLibrary q).1 = .error (.missingSymbol q Language.symbol
        (.undefinedSymbol a.library.loadedAs Language.symbol))

theorem trace_of_insert {s t : Session} {a : Loading} (hentry : a.library.entry = .missing)
    (hnone : s.world.loaded.at? a.key = none)
    (ht : t = s.withLoaded (s.world.loaded.insert a.key a.path a.library)) : s.Trace t a := by
  refine ⟨hentry, ht, ?_, ?_⟩
  · intro steps hmeets
    rw [ht]
    exact told_outcomes_withLoaded ((Loaded.SameBut.of_insert _ hentry).agreesOn hmeets)
  · intro steps q hq hkey
    obtain ⟨f, hf⟩ := FileTree.isFile_iff.mp hq
    have hkept : t.world.loaded.at? a.key = some a.library := by
      rw [ht]
      exact Loaded.at?_insert_self a.path hnone
    have hat : (t.afterAll steps).world.loaded.at? (.of (t.afterAll steps).world.files q) =
        some a.library := by
      rw [hkey]
      exact at?_afterAll_of_at? steps hkept
    have hend := congrArg Prod.fst (Loaded.openPath_of_kept hf hat)
    exact hend.trans (LibraryGrammar.ofLibrary_eq_error_iff.mpr ⟨hentry, rfl⟩)

end Session

/-- A failed opening leaves nothing, unless it is the first to get hold of a library that does not
export the language function, which is kept then. After any further steps a valid library is opened
by a path with a slash unless one is known for it that is not valid. -/
theorem openLibrary_error_leaves {s : Session} (hs : s.Reachable) {p : Path} {e : ProviderError}
    (slot : String) (h : (s.world.openLibrary p).1 = .error e) :
    (e.kind ≠ .missingSymbol ∨ (∃ lib, s.world.loaded.at? (.of s.world.files p) = some lib) →
      ∀ steps, (s.opened p slot).outcomes steps = s.outcomes steps) ∧
    (e.kind = .missingSymbol → s.world.loaded.at? (.of s.world.files p) = none →
      ∃ a : Loading, a.key = .of s.world.files p ∧ a.path = p ∧ s.Trace (s.opened p slot) a) ∧
    ∀ steps, ((s.opened p slot).afterAll steps).Exports p → p.hasSlash = true →
      ((∃ g, (((s.opened p slot).afterAll steps).world.openLibrary p).1 = .ok g) ↔
        ∀ lib ∈ ((s.opened p slot).afterAll steps).known? p, lib.entry ≠ .missing) := by
  have hopened := Session.opened_of_error slot h
  refine ⟨?_, ?_, ?_⟩
  · intro hquiet steps
    rcases Loaded.openPath_error_cases h with ⟨hsame, -⟩ | ⟨lib, -, hkind, hnone, -⟩
    · rw [hopened, hsame]
      rfl
    · rcases hquiet with hkind' | ⟨kept, hkept⟩
      · exact absurd hkind hkind'
      · rw [hnone] at hkept
        cases hkept
  · intro hkind hnone
    rcases Loaded.openPath_error_cases h with
      ⟨-, hkind' | ⟨kept, hkept⟩⟩ | ⟨lib, hentry, -, -, hafter⟩
    · exact absurd hkind hkind'
    · rw [hnone] at hkept
      cases hkept
    · rw [hafter] at hopened
      exact ⟨⟨.of s.world.files p, p, lib⟩, rfl, rfl,
        Session.trace_of_insert hentry hnone hopened⟩
  · intro steps hexports hslash
    obtain ⟨f, entry, hf, hc, hentry⟩ := hexports
    have hopen : (s.opened p slot).Reachable := hs.afterAll [.openLibrary p slot]
    have hmapped := (hopen.afterAll steps).mappedFrom
    exact hmapped.openPath_isOk_iff hf hc hentry hslash

/-- Which kind of error an opening ends in, if it fails. -/
def failure? : Except ProviderError LibraryGrammar → Option ProviderError.Kind
  | .ok _ => none
  | .error e => some e.kind

theorem exists_error_of_failure? {r : Except ProviderError LibraryGrammar}
    {k : ProviderError.Kind} (h : failure? r = some k) : ∃ e, r = .error e ∧ e.kind = k := by
  cases r with
  | ok g => cases h
  | error e => exact ⟨e, rfl, Option.some.inj h⟩

/-- A library is written that does not export the language function. -/
def unexported : Session :=
  (Session.fresh emptyWorld).afterAll
    [.changeFiles (.write (.ofText "/r/x.so") (.library .missing))]

theorem openLibrary_error_leaves_unexported :
    ∃ a : Loading, a.key = .of unexported.world.files (.ofText "/r/x.so") ∧
      a.path = .ofText "/r/x.so" ∧
        unexported.Trace (unexported.opened (.ofText "/r/x.so") "main") a := by
  obtain ⟨e, he, hkind⟩ := exists_error_of_failure?
    (r := (unexported.world.openLibrary (.ofText "/r/x.so")).1) (k := .missingSymbol)
    (by decide +kernel)
  exact (openLibrary_error_leaves ⟨emptyWorld, _, rfl⟩ "main" he).2.1 hkind (by decide +kernel)

/-- A valid library at the place. -/
def replaced : List Step := [.changeFiles (.write (.ofText "/r/x.so") (.library (.language 14)))]

/-- An opening that misses the symbol goes on to fail when the library is replaced by a valid one,
which would be opened without it. It does so too when the path comes to lead to another place. A
bare name that is not found at first is still refused by the loader when it leads to a library. -/
theorem openLibrary_error_is_remembered :
    failure? (unexported.world.openLibrary (.ofText "/r/x.so")).1 = some .missingSymbol ∧
      failure? (((unexported.opened (.ofText "/r/x.so") "main").afterAll replaced).world.openLibrary
        (.ofText "/r/x.so")).1 = some .missingSymbol ∧
      failure? ((unexported.afterAll replaced).world.openLibrary (.ofText "/r/x.so")).1 = none ∧
      failure? ((worldAfter (movedAway .missing (.language 14))).openLibrary
        (.ofText "/r/a/x.so")).1 = some .missingSymbol ∧
      (worldAfter (movedAway .missing (.language 14))).loaded.at?
        (.of (worldAfter (movedAway .missing (.language 14))).files (.ofText "/r/a/x.so")) = none ∧
      failure? ((worldAfter []).openLibrary (.ofText "x.so")).1 = some .notFound ∧
      failure? ((worldAfter (.openLibrary (.ofText "x.so") "main" :: replaced)).openLibrary
        (.ofText "x.so")).1 = some .load := by
  decide +kernel

end GrammarLoad
