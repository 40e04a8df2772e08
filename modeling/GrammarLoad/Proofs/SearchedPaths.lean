import GrammarLoad.ProviderError

/-!
What the message of a failed search shows. The paths stand in it one after the other, with a comma
and a blank in between, so cutting the text at every comma that a blank follows gives them back.
This needs that no path holds such a comma itself, and that none is the text that stands for no
paths.
-/
namespace GrammarLoad

namespace Listing

/-- What stands between two paths. -/
def separator : List Char := [',', ' ']

/-- The parts of a text between its separators. -/
def cut : List Char → List (List Char)
  | [] => [[]]
  | ',' :: ' ' :: rest => [] :: cut rest
  | c :: rest => (cut rest).modifyHead (c :: ·)

/-- The paths that a list shows. -/
def read (text : String) : List Path :=
  if text = "<none>" then [] else (cut text.toList).map fun part => .ofText (String.ofList part)

theorem cut_cons {c : Char} {rest : List Char} (h : ¬ separator <+: c :: rest) :
    cut (c :: rest) = (cut rest).modifyHead (c :: ·) := by
  rw [cut]
  rintro tail rfl rfl
  exact h ⟨tail, rfl⟩

/-- A comma at the end of a part meets the comma of the separator, so none begins earlier. -/
theorem not_separator_prefix_append {c : Char} {part : List Char}
    (h : ¬ separator <+: c :: part) (rest : List Char) :
    ¬ separator <+: c :: (part ++ (separator ++ rest)) := by
  cases part with
  | nil => simp [separator]
  | cons d part => simpa [separator] using h

theorem cut_of_unseparated {part : List Char} (h : ¬ separator <:+: part) : cut part = [part] := by
  induction part with
  | nil => rfl
  | cons c part ih =>
    have hpart : ¬ separator <:+: part := fun hin => h (List.infix_cons hin)
    rw [cut_cons fun hpre => h hpre.isInfix, ih hpart]
    rfl

theorem cut_append {part : List Char} (h : ¬ separator <:+: part) (rest : List Char) :
    cut (part ++ (separator ++ rest)) = part :: cut rest := by
  induction part with
  | nil => rfl
  | cons c part ih =>
    have hpart : ¬ separator <:+: part := fun hin => h (List.infix_cons hin)
    have hhead : ¬ separator <+: c :: part := fun hpre => h hpre.isInfix
    rw [List.cons_append, cut_cons (not_separator_prefix_append hhead rest), ih hpart]
    rfl

/-- Cutting undoes joining. -/
theorem cut_intercalate {parts : List (List Char)} (hne : parts ≠ [])
    (h : ∀ part ∈ parts, ¬ separator <:+: part) : cut (separator.intercalate parts) = parts := by
  induction parts with
  | nil => exact absurd rfl hne
  | cons part parts ih =>
    have hpart := h part List.mem_cons_self
    cases parts with
    | nil => rw [List.intercalate_singleton, cut_of_unseparated hpart]
    | cons next parts =>
      have hrest := ih (List.cons_ne_nil _ _) fun q hq => h q (List.mem_cons_of_mem _ hq)
      rw [List.intercalate_cons_cons, List.append_assoc, cut_append hpart, hrest]

end Listing

namespace Path

/-- The path is text, holds no separator and is not the text that stands for no paths. -/
def Listable (p : Path) : Prop :=
  ∃ s ∈ text? p.bytes, ¬ Listing.separator <:+: s.toList ∧ s ≠ "<none>"

instance (p : Path) : Decidable p.Listable := inferInstanceAs (Decidable (∃ _ ∈ _, _))

variable {p : Path}

theorem Listable.textual (h : p.Listable) : (text? p.bytes).isSome := by
  obtain ⟨s, hs, -⟩ := h
  exact Option.isSome_of_mem hs

theorem Listable.unseparated (h : p.Listable) : ¬ Listing.separator <:+: p.display.toList := by
  obtain ⟨s, hs, hsep, -⟩ := h
  rwa [display_of_text? hs]

theorem Listable.display_ne_none (h : p.Listable) : p.display ≠ "<none>" := by
  obtain ⟨s, hs, -, hnone⟩ := h
  rwa [display_of_text? hs]

end Path

namespace ProviderError

variable {paths xs ys : List Path}

theorem cut_displayPaths (hne : paths ≠ []) (h : ∀ p ∈ paths, p.Listable) :
    Listing.cut (displayPaths paths).toList = paths.map (·.display.toList) := by
  have hparts : ∀ part ∈ paths.map (·.display.toList), ¬ Listing.separator <:+: part := by
    intro part hpart
    obtain ⟨p, hp, rfl⟩ := List.mem_map.mp hpart
    exact (h p hp).unseparated
  have hjoin : (displayPaths paths).toList =
      Listing.separator.intercalate (paths.map (·.display.toList)) := by
    unfold displayPaths
    rw [if_neg (by simpa using hne), String.toList_intercalate, List.map_map]
    rfl
  rw [hjoin, Listing.cut_intercalate (by simpa using hne) hparts]

/-- A list of paths does not look like the list of none. -/
theorem displayPaths_ne_none (hne : paths ≠ []) (h : ∀ p ∈ paths, p.Listable) :
    displayPaths paths ≠ "<none>" := by
  intro heq
  have hcut := cut_displayPaths hne h
  have hnone : Listing.cut "<none>".toList = ["<none>".toList] := by decide
  rw [heq, hnone] at hcut
  obtain ⟨p, rfl, hp⟩ := List.map_eq_singleton_iff.mp hcut.symm
  exact (h p List.mem_cons_self).display_ne_none (String.toList_inj.mp hp)

/-- The paths can be read back from their list. -/
theorem read_displayPaths (h : ∀ p ∈ paths, p.Listable) :
    Listing.read (displayPaths paths) = paths := by
  by_cases hne : paths = []
  · subst hne
    rfl
  · have hback : ∀ p ∈ paths, Path.ofText (String.ofList p.display.toList) = p := by
      intro p hp
      rw [String.ofList_toList, Path.ofText_display (h p hp).textual]
    unfold Listing.read
    rw [if_neg (displayPaths_ne_none hne h), cut_displayPaths hne h, List.map_map]
    exact (List.map_congr_left hback).trans (List.map_id paths)

/-- The message of a failed search shows every path that was searched, in order and as often as it
was searched. -/
theorem searched_eq_of_message_eq (hxs : ∀ p ∈ xs, p.Listable) (hys : ∀ p ∈ ys, p.Listable)
    (h : (notFound xs).message = (notFound ys).message) : xs = ys := by
  have hlist : displayPaths xs = displayPaths ys :=
    (String.append_right_inj _).mp ((String.append_left_inj _).mp h)
  calc
    xs = Listing.read (displayPaths xs) := (read_displayPaths hxs).symm
    _ = Listing.read (displayPaths ys) := by rw [hlist]
    _ = ys := read_displayPaths hys

/-- Commas and blanks at the edges of paths, and paths of nothing else. -/
def edged : List Path := ["a,", " b", "", ",", "", " "].map .ofText

def edgedBytes : List Path := [⟨[97, 44]⟩, ⟨[32, 98]⟩, ⟨[]⟩, ⟨[44]⟩, ⟨[]⟩, ⟨[32]⟩]

theorem searched_eq_of_message_eq_edged :
    (∀ p ∈ edged, p.Listable) ∧ (∀ p ∈ edgedBytes, p.Listable) ∧
    (notFound edged).message = (notFound edgedBytes).message ∧ edged = edgedBytes := by
  have hedged : ∀ p ∈ edged, p.Listable := by decide +kernel
  have hbytes : ∀ p ∈ edgedBytes, p.Listable := by decide +kernel
  have hmessage : (notFound edged).message = (notFound edgedBytes).message := by decide +kernel
  exact ⟨hedged, hbytes, hmessage, searched_eq_of_message_eq hedged hbytes hmessage⟩

-- What the excluded paths would hide: where a path ends, and whether there is one.
example : (notFound [.ofText "a, b"]).message = (notFound [.ofText "a", .ofText "b"]).message ∧
    (notFound [.ofText "<none>"]).message = (notFound []).message := by
  decide +kernel

end ProviderError

end GrammarLoad
