/-!
# Dictionaries

A dictionary maps texts to values. Its entries stand in strictly increasing order of their keys,
compared code point by code point, which is also the order of their UTF-8 bytes; so a key occurs
at most once and two dictionaries with the same entries are equal.
-/

namespace OfflineSigner

/-- Entries in strictly increasing order of their keys. -/
structure Dictionary (α : Type) where
  toList : List (String × α)
  /-- Each key is below all later ones. -/
  ordered : toList.Pairwise fun a b => a.1 < b.1
deriving DecidableEq

namespace Dictionary

variable {α : Type}

/-- The dictionary without entries. -/
def empty : Dictionary α :=
  ⟨[], List.Pairwise.nil⟩

instance : Inhabited (Dictionary α) := ⟨empty⟩

/-- Puts an entry at its place in an ordered list, in place of one with the same key. -/
def insertEntry (key : String) (value : α) : List (String × α) → List (String × α)
  | [] => [(key, value)]
  | entry :: rest =>
    if key < entry.1 then (key, value) :: entry :: rest
    else if key = entry.1 then (key, value) :: rest
    else entry :: insertEntry key value rest

/-- The keys after an insertion are the new key and the old ones. -/
theorem fst_of_mem_insertEntry {key : String} {value : α} {entries : List (String × α)}
    {entry : String × α} (h : entry ∈ insertEntry key value entries) :
    entry.1 = key ∨ entry ∈ entries := by
  induction entries with
  | nil =>
    simp only [insertEntry, List.mem_singleton] at h
    simp [h]
  | cons first rest ih =>
    simp only [insertEntry] at h
    split at h
    · rcases List.mem_cons.mp h with rfl | h
      · exact Or.inl rfl
      · exact Or.inr h
    · split at h
      · rcases List.mem_cons.mp h with rfl | h
        · exact Or.inl rfl
        · exact Or.inr (List.mem_cons_of_mem _ h)
      · rcases List.mem_cons.mp h with rfl | h
        · exact Or.inr List.mem_cons_self
        · exact (ih h).imp id (List.mem_cons_of_mem _)

/-- An insertion keeps the order of the keys. -/
theorem insertEntry_ordered (key : String) (value : α) {entries : List (String × α)}
    (ordered : entries.Pairwise fun a b => a.1 < b.1) :
    (insertEntry key value entries).Pairwise fun a b => a.1 < b.1 := by
  induction entries with
  | nil => exact List.pairwise_singleton _ _
  | cons first rest ih =>
    obtain ⟨below, later⟩ := List.pairwise_cons.mp ordered
    simp only [insertEntry]
    split
    · rename_i smaller
      refine List.pairwise_cons.mpr ⟨?_, ordered⟩
      intro entry member
      rcases List.mem_cons.mp member with rfl | member
      · exact smaller
      · exact String.lt_trans smaller (below entry member)
    · split
      · rename_i same
        exact List.pairwise_cons.mpr ⟨fun entry member => same ▸ below entry member, later⟩
      · rename_i notSmaller different
        refine List.pairwise_cons.mpr ⟨?_, ih later⟩
        intro entry member
        rcases fst_of_mem_insertEntry member with rfl | member
        · rcases String.le_total entry.1 first.1 with le | le
          · exact absurd (String.le_antisymm le (String.not_lt.mp notSmaller)) different
          · exact String.not_le.mp fun le' => different (String.le_antisymm le' le)
        · exact below entry member

/-- The dictionary with one more entry, which replaces an older one of the same key. -/
def insert (dictionary : Dictionary α) (key : String) (value : α) : Dictionary α :=
  ⟨insertEntry key value dictionary.toList, insertEntry_ordered key value dictionary.ordered⟩

/-- The dictionary of some entries; of those with the same key the last counts. -/
def ofList (entries : List (String × α)) : Dictionary α :=
  entries.foldl (fun dictionary entry => dictionary.insert entry.1 entry.2) empty

/-- The value of a key. -/
def get? (dictionary : Dictionary α) (key : String) : Option α :=
  dictionary.toList.lookup key

/-- Dictionaries with the same entries are equal. -/
theorem ext {a b : Dictionary α} (h : a.toList = b.toList) : a = b := by
  cases a
  cases b
  cases h
  rfl

end Dictionary

end OfflineSigner
