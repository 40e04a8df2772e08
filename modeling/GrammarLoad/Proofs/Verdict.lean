import GrammarLoad.Run

/-!
The verdict of the check. A provider's own error is passed on. Else the two answers of the handle
decide: it fails if it is empty, whatever a parser would say, it fails if a parser refuses it, and
it passes if neither. For a language this is a matter of its version, and for a pointer of its
nullness.
-/
namespace GrammarLoad

theorem check_eq_error_iff {binding : String} {answer : Except ProviderError Handle}
    {e : ProviderError} : check binding answer = .error e ↔ answer = .error e := by
  cases answer with
  | error e' => simp [check, Except.map]
  | ok h => simp [check, Except.map]

/-- A parser that refuses a language names its version and the range. -/
theorem Language.attach_eq_error_iff {l : Language} {i : Incompatible} :
    l.attach = .error i ↔ ¬ l.Supported ∧ i = ⟨l.version, 13, 14⟩ := by
  unfold Language.attach
  split
  · next h => simp [h]
  · next h =>
    rw [Except.error.injEq]
    constructor
    · intro heq
      exact ⟨h, heq.symm⟩
    · rintro ⟨-, heq⟩
      exact heq.symm

/-- What is said of a refused language, with the parser's range spelt out. -/
theorem Incompatible.message_of_range (version : Nat) :
    (Incompatible.mk version 13 14).message =
      "incompatible language ABI version " ++ toString version ++ " (supported 13..=14)" := by
  have hrange : " (supported " ++ (toString 13 ++ ("..=" ++ (toString 14 ++ ")"))) =
      " (supported 13..=14)" := by decide +kernel
  unfold Incompatible.message
  rw [← hrange]
  simp [String.append_assoc]

/-- A check's report on a language, or on the lack of one. -/
structure Report.OnLanguage (r : Report) (l : Option Language) : Prop where
  passed_iff : r.state = .passed ↔ ∃ k, l = some k ∧ 13 ≤ k.version ∧ k.version ≤ 14
  absent : l = none → (Handle.language l).attach = .ok () ∧
    r.failures = [⟨.grammarUnavailable, Failure.fixedMessage, none⟩]
  outside : ∀ k, l = some k → ¬ (13 ≤ k.version ∧ k.version ≤ 14) →
    r.failures = [⟨.incompatibleLanguage, Failure.fixedMessage,
      some ("incompatible language ABI version " ++ toString k.version ++
        " (supported 13..=14)")⟩]

/-- A check's report on a handle: what its two answers decide. -/
structure Report.OnHandle (r : Report) (h : Handle) : Prop where
  passed_iff : r.state = .passed ∧ r.failures = [] ↔ h.isEmpty = false ∧ h.attach = .ok ()
  failed_iff : r.state = .failed ↔ ¬ (h.isEmpty = false ∧ h.attach = .ok ())
  empty : h.isEmpty = true →
    r.failures = [⟨.grammarUnavailable, Failure.fixedMessage, none⟩]
  refused : ∀ i, h.isEmpty = false → h.attach = .error i →
    r.failures = [⟨.incompatibleLanguage, Failure.fixedMessage, some i.message⟩]
  language : ∀ l, h = .language l → r.OnLanguage l
  pointer : ∀ isNull, h = .pointer isNull → (r.state = .passed ↔ isNull = false)

namespace Report

theorem state_ofHandle_eq_passed_iff {binding : String} {h : Handle} :
    (ofHandle binding h).state = .passed ↔ h.Usable := by
  change (Run.reportOf binding (.ok h)).state = .passed ↔ h.Usable
  rw [Run.state_reportOf_eq_passed_iff]
  simp

/-- A check that is over and did not pass has failed. -/
theorem state_ofHandle_eq_failed_iff {binding : String} {h : Handle} :
    (ofHandle binding h).state = .failed ↔ ¬ h.Usable := by
  have hstate : (ofHandle binding h).state = .passed ∨ (ofHandle binding h).state = .failed :=
    Run.state_reportOf binding (.ok h)
  have hpassed : (ofHandle binding h).state = .passed ↔ h.Usable := state_ofHandle_eq_passed_iff
  rw [← hpassed]
  rcases hstate with hs | hs <;> simp [hs]

theorem ofHandle_onLanguage (binding : String) (l : Option Language) :
    (ofHandle binding (.language l)).OnLanguage l := by
  constructor
  · rw [state_ofHandle_eq_passed_iff, Handle.usable_language]
    rfl
  · rintro rfl
    have hempty : (Handle.language none).isEmpty = true := rfl
    refine ⟨rfl, ?_⟩
    rw [ofHandle_of_isEmpty hempty]
    rfl
  · rintro k rfl hout
    have ha : (Handle.language (some k)).attach = .error ⟨k.version, 13, 14⟩ :=
      Language.attach_eq_error_iff.mpr ⟨hout, rfl⟩
    have hthere : (Handle.language (some k)).isEmpty = false := rfl
    rw [ofHandle_of_refused hthere ha, ← Incompatible.message_of_range]
    rfl

theorem ofHandle_onHandle (binding : String) (h : Handle) : (ofHandle binding h).OnHandle h := by
  constructor
  · rcases ofHandle_cases binding h with ⟨hu, hr⟩ | ⟨he, hr⟩ | ⟨i, he, ha, hr⟩
    · simp [hr, hu.1, hu.2]
    · simp [hr, he]
    · simp [hr, ha]
  · exact state_ofHandle_eq_failed_iff
  · intro he
    rw [ofHandle_of_isEmpty he]
    rfl
  · intro i he ha
    rw [ofHandle_of_refused he ha]
    rfl
  · rintro l rfl
    exact ofHandle_onLanguage binding l
  · rintro isNull rfl
    rw [state_ofHandle_eq_passed_iff, Handle.usable_pointer]

end Report

/-- The check of a provider fails with an error exactly if the provider does, and with the same one.
Else it ends in a report on the handle that the provider gave. -/
theorem check_decides (p : Provider) (linked : LinkedGrammar) (loaded : Loaded) (calls : Calls) :
    (∀ e, check p.binding (p.answer linked loaded calls) = .error e ↔
      p.answer linked loaded calls = .error e) ∧
    ∀ h, p.answer linked loaded calls = .ok h →
      ∃ r, check p.binding (p.answer linked loaded calls) = .ok r ∧ r.name = Report.checkName ∧
        r.binding = p.binding ∧ r.OnHandle h := by
  refine ⟨fun e => check_eq_error_iff, ?_⟩
  intro h hanswer
  have hbinding := Run.binding_reportOf p.binding (.ok h)
  refine ⟨.ofHandle p.binding h, by rw [hanswer]; rfl, ?_, hbinding,
    Report.ofHandle_onHandle p.binding h⟩
  rcases Report.ofHandle_cases p.binding h with ⟨-, hr⟩ | ⟨-, hr⟩ | ⟨i, -, -, hr⟩ <;> rw [hr]

/-- A handle that is empty and would be refused as well. -/
def emptyAndRefused : Provider :=
  .closure ⟨"custom", "n", .ok (.custom true (.error ⟨99, 13, 14⟩)), []⟩

/-- A grammar of a library. -/
def outdated : Provider := .through (.bound (.library ⟨"library:/r/x.so", 3⟩))

/-- The library is loaded, and its grammar is an old one. -/
def withOutdated : Loaded :=
  Loaded.empty.insert (Path.ofText "/r/x.so").components (.ofText "/r/x.so")
    ⟨3, .ofText "/r/x.so", .language 12⟩

theorem check_decides_unhappy :
    (∃ r, check "custom" (emptyAndRefused.answer .absent .empty Calls.none) = .ok r ∧
      r.failures = [⟨.grammarUnavailable, Failure.fixedMessage, none⟩]) ∧
    ∃ r, check "library:/r/x.so" (outdated.answer .absent withOutdated Calls.none) = .ok r ∧
      r.state = .failed ∧
      r.failures = [⟨.incompatibleLanguage, Failure.fixedMessage,
        some "incompatible language ABI version 12 (supported 13..=14)"⟩] := by
  constructor
  · obtain ⟨r, hr, -, -, hon⟩ :=
      (check_decides emptyAndRefused .absent .empty Calls.none).2
        (.custom true (.error ⟨99, 13, 14⟩)) rfl
    exact ⟨r, hr, hon.empty rfl⟩
  · obtain ⟨r, hr, -, -, hon⟩ :=
      (check_decides outdated .absent withOutdated Calls.none).2 (.language (some ⟨12⟩)) rfl
    refine ⟨r, hr, ?_, ?_⟩
    · apply hon.failed_iff.mpr
      rintro ⟨-, ha⟩
      cases ha
    · have htext : "incompatible language ABI version " ++ toString 12 ++ " (supported 13..=14)" =
          "incompatible language ABI version 12 (supported 13..=14)" := by decide
      rw [← htext]
      exact (hon.language (some ⟨12⟩) rfl).outside ⟨12⟩ rfl (by decide)

end GrammarLoad
