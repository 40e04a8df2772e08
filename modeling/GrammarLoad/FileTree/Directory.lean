import GrammarLoad.Path

/-!
Directories as tables of names. A name stands for one node, which is known by its number; two names
may stand for the same node. The lemmas say what putting and removing a name do to a look-up.
-/
namespace GrammarLoad

abbrev NodeId := Nat

structure Directory where
  /-- the directory that `..` names -/
  parent : NodeId
  entries : List (Name × NodeId)
  distinct : (entries.map (·.1)).Nodup
  deriving DecidableEq, Repr

namespace Directory

def empty (parent : NodeId) : Directory := ⟨parent, [], by simp⟩

def idOf? (d : Directory) (n : Name) : Option NodeId := (d.entries.find? (·.1 == n)).map (·.2)

def nameOf? (d : Directory) (id : NodeId) : Option Name :=
  (d.entries.find? (·.2 == id)).map (·.1)

def remove (d : Directory) (n : Name) : Directory where
  parent := d.parent
  entries := d.entries.filter (·.1 != n)
  distinct := d.distinct.sublist (List.filter_sublist.map _)

/-- Let a name stand for a node, whatever it stood for. -/
def put (d : Directory) (n : Name) (id : NodeId) : Directory where
  parent := d.parent
  entries := (n, id) :: (d.remove n).entries
  distinct := List.nodup_cons.mpr ⟨by simp [remove], (d.remove n).distinct⟩

theorem idOf?_put_self (d : Directory) (n : Name) (id : NodeId) :
    (d.put n id).idOf? n = some id := by
  simp [idOf?, put]

theorem idOf?_remove_self (d : Directory) (n : Name) : (d.remove n).idOf? n = none := by
  simp [idOf?, remove]

theorem idOf?_remove_of_ne (d : Directory) {n k : Name} (h : k ≠ n) :
    (d.remove n).idOf? k = d.idOf? k := by
  have hp : (fun e : Name × NodeId => decide ((e.1 != n) = true ∧ (e.1 == k) = true)) =
      fun e => e.1 == k := by
    funext e
    by_cases he : e.1 = k <;> simp [he, h]
  simp only [idOf?, remove, List.find?_filter, hp]

theorem idOf?_put_of_ne (d : Directory) (id : NodeId) {n k : Name} (h : k ≠ n) :
    (d.put n id).idOf? k = d.idOf? k := by
  rw [← idOf?_remove_of_ne d h]
  simp [idOf?, put, Ne.symm h]

private theorem find?_of_mem {entries : List (Name × NodeId)} {n : Name} {id : NodeId}
    (hd : (entries.map (·.1)).Nodup) (h : (n, id) ∈ entries) :
    entries.find? (·.1 == n) = some (n, id) := by
  induction entries with
  | nil => simp at h
  | cons e rest ih =>
    obtain ⟨hn, hrest⟩ := List.nodup_cons.mp hd
    rcases List.mem_cons.mp h with rfl | hmem
    · simp
    · have hne : e.1 ≠ n := fun he => hn (List.mem_map.mpr ⟨_, hmem, he.symm⟩)
      simp [hne, ih hrest hmem]

/-- A name found for a node leads back to it. -/
theorem idOf?_of_nameOf? {d : Directory} {n : Name} {id : NodeId} (h : d.nameOf? id = some n) :
    d.idOf? n = some id := by
  obtain ⟨e, he, rfl⟩ := Option.map_eq_some_iff.mp h
  have hid : e.2 = id := by simpa using List.find?_some he
  have hmem : (e.1, id) ∈ d.entries := hid ▸ List.mem_of_find?_eq_some he
  simp [idOf?, find?_of_mem d.distinct hmem]

end Directory

end GrammarLoad
