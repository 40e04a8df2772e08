import GrammarLoad.Proofs.EntryPoints

/-!
What the text of a failure tells. Of a provider's error and of a refused language nothing is kept
but the text, with paths, numbers and the words of a loader in it. Whatever these are, the text
begins as only texts of its kind do, and the numbers of a refused language end where a character
follows that is no digit.
-/
namespace GrammarLoad

theorem toDigits_injective {m n : Nat} (h : Nat.toDigits 10 m = Nat.toDigits 10 n) : m = n := by
  calc
    m = Nat.ofDigitChars 10 (Nat.toDigits 10 m) 0 := Nat.ofDigitChars_ten_toDigits.symm
    _ = Nat.ofDigitChars 10 (Nat.toDigits 10 n) 0 := by rw [h]
    _ = n := Nat.ofDigitChars_ten_toDigits

/-- A text that goes on, and not with a digit. -/
def EndsNumber (s : List Char) : Prop := s.head?.all Char.isDigit = false

instance (s : List Char) : Decidable (EndsNumber s) := inferInstanceAs (Decidable (_ = false))

theorem takeWhile_toDigits_append (n : Nat) {sep : List Char} (h : EndsNumber sep)
    (s : List Char) : (Nat.toDigits 10 n ++ (sep ++ s)).takeWhile Char.isDigit =
      Nat.toDigits 10 n := by
  have hdigits : ∀ c ∈ Nat.toDigits 10 n, c.isDigit = true :=
    fun c hc => Nat.isDigit_of_mem_toDigits (by omega) (by omega) hc
  cases sep with
  | nil => exact nomatch h
  | cons c rest =>
    have hc : c.isDigit = false := h
    rw [List.takeWhile_append_of_pos hdigits, List.cons_append,
      List.takeWhile_cons_of_neg (by simp [hc]), List.append_nil]

/-- A number can be read back from a text that does not go on with a digit, and so can the rest. -/
theorem toDigits_append_inj {m n : Nat} {sep s t : List Char} (hsep : EndsNumber sep)
    (h : Nat.toDigits 10 m ++ (sep ++ s) = Nat.toDigits 10 n ++ (sep ++ t)) : m = n ∧ s = t := by
  have hmn : m = n := by
    apply toDigits_injective
    rw [← takeWhile_toDigits_append m hsep s, h, takeWhile_toDigits_append n hsep t]
  subst n
  exact ⟨rfl, List.append_cancel_left (List.append_cancel_left h)⟩

namespace Incompatible

theorem toList_message (i : Incompatible) :
    i.message.toList = "incompatible language ABI version ".toList ++
      (Nat.toDigits 10 i.version ++ (" (supported ".toList ++
        (Nat.toDigits 10 i.min ++ ("..=".toList ++
          (Nat.toDigits 10 i.max ++ (")".toList ++ [])))))) := by
  unfold message
  simp only [String.toList_append, Nat.toString_eq_repr, Nat.toList_repr, List.append_assoc,
    List.append_nil]

/-- The three numbers can be read back from the text. -/
theorem message_injective {i j : Incompatible} (h : i.message = j.message) : i = j := by
  have htext := congrArg String.toList h
  rw [toList_message, toList_message] at htext
  obtain ⟨hversion, hrest⟩ :=
    toDigits_append_inj (by decide +kernel) (List.append_cancel_left htext)
  obtain ⟨hmin, hrest⟩ := toDigits_append_inj (by decide +kernel) hrest
  obtain ⟨hmax, -⟩ := toDigits_append_inj (by decide +kernel) hrest
  obtain ⟨version, min, max⟩ := i
  obtain ⟨version', min', max'⟩ := j
  simp_all

end Incompatible

namespace Failure

/-- A failure that comes of what a provider answered: in a check by itself, in a check within a
run, or where the error of a provider is recorded in a run. -/
inductive ComesOf (f : Failure) : Except ProviderError Handle → Prop
  | check {binding : String} {answer : Except ProviderError Handle} {r : Report}
      (h : GrammarLoad.check binding answer = .ok r) (hf : f ∈ r.failures) : f.ComesOf answer
  | run {σ : Type} [Reporter σ] {run : Run σ} {binding : String}
      {answer : Except ProviderError Handle} {r : Report}
      (h : (run.check binding answer).1.reports = run.reports ++ [r]) (hf : f ∈ r.failures) :
      f.ComesOf answer
  | record {σ : Type} [Reporter σ] {run : Run σ} {binding : String} {e : ProviderError}
      {r : Report} (h : (run.recordError binding e).1.reports = run.reports ++ [r])
      (hf : f ∈ r.failures) : f.ComesOf (.error e)

/-- What a failure is made from: nothing but an empty handle, the refusal of a handle, or an
error. -/
inductive Origin (f : Failure) : Except ProviderError Handle → Prop
  | empty {h : Handle} (he : h.isEmpty = true) (hf : f = unavailable) : f.Origin (.ok h)
  | refused {h : Handle} {i : Incompatible} (he : h.isEmpty = false) (ha : h.attach = .error i)
      (hf : f = incompatible i) : f.Origin (.ok h)
  | erred {e : ProviderError} (hf : f = provider e) : f.Origin (.error e)

variable {f g : Failure} {answer other : Except ProviderError Handle}

theorem origin_of_mem {binding : String} (h : f ∈ (Run.reportOf binding answer).failures) :
    f.Origin answer := by
  rcases Run.reportOf_cases binding answer with
    ⟨k, -, -, hr⟩ | ⟨k, rfl, he, hr⟩ | ⟨k, i, rfl, he, ha, hr⟩ | ⟨e, rfl, hr⟩ <;> rw [hr] at h
  · exact absurd h List.not_mem_nil
  · exact .empty he (List.mem_singleton.mp h)
  · exact .refused he ha (List.mem_singleton.mp h)
  · exact .erred (List.mem_singleton.mp h)

theorem ComesOf.origin (h : f.ComesOf answer) : f.Origin answer := by
  cases h with
  | check h hf =>
    rw [← reportOf_eq_of_check h] at hf
    exact origin_of_mem hf
  | run h hf =>
    rw [Run.reports_check] at h
    obtain rfl := List.singleton_inj.mp (List.append_cancel_left h)
    exact origin_of_mem hf
  | record h hf =>
    rw [Run.reports_recordError] at h
    obtain rfl := List.singleton_inj.mp (List.append_cancel_left h)
    change f ∈ (Run.reportOf _ (.error _)).failures at hf
    exact origin_of_mem hf

theorem Origin.message (h : f.Origin answer) : f.message = fixedMessage := by
  cases h with
  | empty _ hf => rw [hf]; rfl
  | refused _ _ hf => rw [hf]; rfl
  | erred hf => rw [hf]; rfl

/-- The text of a failure shows whether there is a detail, and which. -/
theorem detail_eq_of_text_eq (hmessage : f.message = g.message) (h : f.text = g.text) :
    f.detail = g.detail := by
  have hlonger : ∀ s d : String, s ++ ": " ++ d ≠ s := by
    intro s d heq
    have hlength := congrArg String.length heq
    simp only [String.length_append] at hlength
    have hcolon : ": ".length = 2 := rfl
    omega
  unfold text at h
  rw [hmessage] at h
  cases hf : f.detail with
  | none =>
    cases hg : g.detail with
    | none => rfl
    | some d =>
      rw [hf, hg] at h
      exact absurd h.symm (hlonger g.message d)
  | some d =>
    cases hg : g.detail with
    | none =>
      rw [hf, hg] at h
      exact absurd h (hlonger g.message d)
    | some d' =>
      rw [hf, hg] at h
      rw [(String.append_right_inj (g.message ++ ": ")).mp h]

/-- Failures with one text are of one kind. A text tells the three numbers of a refused language
and the kind of a provider's error, whatever paths, numbers and words are in it. -/
theorem text_tells_origin (hf : f.ComesOf answer) (hg : g.ComesOf other) (h : f.text = g.text) :
    f.kind = g.kind ∧
    (f.kind = .incompatibleLanguage → ∃ k k' i, answer = .ok k ∧ other = .ok k' ∧
      k.attach = .error i ∧ k'.attach = .error i) ∧
    (f.kind = .providerFailed → ∃ e e', answer = .error e ∧ other = .error e' ∧
      e.kind = e'.kind) := by
  have hmessage : f.message = g.message := hf.origin.message.trans hg.origin.message.symm
  have hdetail := detail_eq_of_text_eq hmessage h
  cases hf.origin with
  | empty _ heq =>
    subst heq
    cases hg.origin with
    | empty _ heq' =>
      subst heq'
      exact ⟨rfl, nofun, nofun⟩
    | refused _ _ heq' => exact nomatch heq' ▸ hdetail
    | erred heq' => exact nomatch heq' ▸ hdetail
  | refused _ ha heq =>
    subst heq
    cases hg.origin with
    | empty _ heq' => exact nomatch heq' ▸ hdetail
    | refused _ ha' heq' =>
      subst heq'
      obtain rfl := Incompatible.message_injective (Option.some.inj hdetail)
      exact ⟨rfl, fun _ => ⟨_, _, _, rfl, rfl, ha, ha'⟩, nofun⟩
    | erred heq' =>
      subst heq'
      exact absurd (Option.some.inj hdetail) (Incompatible.message_ne_providerError _ _)
  | erred heq =>
    subst heq
    cases hg.origin with
    | empty _ heq' => exact nomatch heq' ▸ hdetail
    | refused _ _ heq' =>
      subst heq'
      exact absurd (Option.some.inj hdetail).symm (Incompatible.message_ne_providerError _ _)
    | erred heq' =>
      subst heq'
      have hkind := ProviderError.kind_eq_of_message_eq (Option.some.inj hdetail)
      exact ⟨rfl, nofun, fun _ => ⟨_, _, rfl, rfl, hkind⟩⟩

/-- The words of a loader that go on where a path ends, and a path that goes on as those words. -/
def shortPath : ProviderError := .load (.ofText "a") (.described "b: c")

def longPath : ProviderError := .load (.ofText "a: b") (.described "c")

theorem text_tells_origin_ambiguous :
    (provider shortPath).text = (provider longPath).text ∧ shortPath ≠ longPath ∧
    ∃ e e', (.error shortPath : Except ProviderError Handle) = .error e ∧
      (.error longPath : Except ProviderError Handle) = .error e' ∧ e.kind = e'.kind := by
  have htext : (provider shortPath).text = (provider longPath).text := by decide +kernel
  have hrun : ((Run.start (⟨⟩ : Tracing)).check "b" (.error shortPath)).1.reports =
      (Run.start (⟨⟩ : Tracing)).reports ++ [.ofError "b" shortPath] := rfl
  have hrecord : ((Run.start (⟨[]⟩ : Collecting)).recordError "b" longPath).1.reports =
      (Run.start (⟨[]⟩ : Collecting)).reports ++ [.ofError "b" longPath] := rfl
  have hshort : (provider shortPath).ComesOf (.error shortPath) :=
    .run hrun List.mem_cons_self
  have hlong : (provider longPath).ComesOf (.error longPath) :=
    .record hrecord List.mem_cons_self
  exact ⟨htext, by decide, (text_tells_origin hshort hlong htext).2.2 rfl⟩

end Failure

end GrammarLoad
