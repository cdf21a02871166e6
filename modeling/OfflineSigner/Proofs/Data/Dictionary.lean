import Mathlib.Data.List.Induction
import Mathlib.Data.List.Nodup
import OfflineSigner.Data.Dictionary

/-!
# Building dictionaries from entries

Entries that already stand in order make up the dictionary that holds them, so writing the entries
of a dictionary and reading them again loses nothing. A key that was put in is found, and what is
found under other keys stays. A dictionary is determined by what is found in it, so the order of
entries matters only among those of one key, of which the last counts.
-/

namespace OfflineSigner.Dictionary

variable {α : Type}

/-- A key above all others is put behind them. -/
theorem insertEntry_of_forall_lt {key : String} {entries : List (String × α)}
    (h : ∀ entry ∈ entries, entry.1 < key) (value : α) :
    insertEntry key value entries = entries ++ [(key, value)] := by
  induction entries with
  | nil => rfl
  | cons first rest ih =>
    have hfirst := h first List.mem_cons_self
    have hne : key ≠ first.1 := by
      rintro rfl
      exact String.lt_irrefl _ hfirst
    rw [insertEntry, if_neg (String.lt_asymm hfirst), if_neg hne,
      ih fun entry hentry => h entry (List.mem_cons_of_mem _ hentry), List.cons_append]

/-- Entries in order are put behind a dictionary all of whose keys are below theirs. -/
theorem toList_foldl_insert (dictionary : Dictionary α) (entries : List (String × α))
    (h : (dictionary.toList ++ entries).Pairwise fun a b => a.1 < b.1) :
    (entries.foldl (fun dictionary entry => dictionary.insert entry.1 entry.2) dictionary).toList =
      dictionary.toList ++ entries := by
  induction entries generalizing dictionary with
  | nil => exact (List.append_nil _).symm
  | cons first rest ih =>
    have hbelow : ∀ entry ∈ dictionary.toList, entry.1 < first.1 := fun entry hentry =>
      (List.pairwise_append.mp h).2.2 entry hentry first List.mem_cons_self
    have hinsert : (dictionary.insert first.1 first.2).toList = dictionary.toList ++ [first] :=
      insertEntry_of_forall_lt hbelow first.2
    have hordered : ((dictionary.insert first.1 first.2).toList ++ rest).Pairwise
        fun a b => a.1 < b.1 := by
      rw [hinsert, List.append_assoc]
      exact h
    rw [List.foldl_cons, ih _ hordered, hinsert, List.append_assoc]
    rfl

/-- The entries of a dictionary make it up. -/
theorem ofList_toList (dictionary : Dictionary α) : ofList dictionary.toList = dictionary :=
  ext (toList_foldl_insert empty dictionary.toList dictionary.ordered)

/-- The entry that was put in is the one that is found under its key. -/
theorem lookup_insertEntry_self (key : String) (value : α) (entries : List (String × α)) :
    (insertEntry key value entries).lookup key = some value := by
  induction entries with
  | nil => exact List.lookup_cons_self
  | cons first rest ih =>
    rw [insertEntry]
    split
    · exact List.lookup_cons_self
    · split
      · exact List.lookup_cons_self
      · rename_i hne
        rw [List.lookup_cons, beq_false_of_ne hne]
        exact ih

/-- What was put in under a key is found there. -/
theorem get?_insert_self (dictionary : Dictionary α) (key : String) (value : α) :
    (dictionary.insert key value).get? key = some value :=
  lookup_insertEntry_self key value dictionary.toList

/-- Under any other key the same is found as before. -/
theorem lookup_insertEntry_of_ne {key other : String} (hne : other ≠ key) (value : α)
    (entries : List (String × α)) :
    (insertEntry key value entries).lookup other = entries.lookup other := by
  have hother : (other == key) = false := beq_false_of_ne hne
  induction entries with
  | nil => rw [insertEntry, List.lookup_cons, hother]
  | cons first rest ih =>
    rw [insertEntry]
    split
    · rw [List.lookup_cons, hother]
    · split
      · rename_i heq
        rw [List.lookup_cons, List.lookup_cons, hother, ← heq, hother]
      · rw [List.lookup_cons, List.lookup_cons, ih]

/-- What is found under other keys stays when an entry is put in. -/
theorem get?_insert_of_ne (dictionary : Dictionary α) {key other : String} (hne : other ≠ key)
    (value : α) : (dictionary.insert key value).get? other = dictionary.get? other :=
  lookup_insertEntry_of_ne hne value dictionary.toList

/-- A key below all keys of some entries is not found among them. -/
theorem lookup_eq_none_of_forall_lt {key : String} {entries : List (String × α)}
    (h : ∀ entry ∈ entries, key < entry.1) : entries.lookup key = none := by
  induction entries with
  | nil => rfl
  | cons first rest ih =>
    have hne : key ≠ first.1 := by
      rintro rfl
      exact String.lt_irrefl _ (h first List.mem_cons_self)
    rw [List.lookup_cons, beq_false_of_ne hne]
    exact ih fun entry hentry => h entry (List.mem_cons_of_mem _ hentry)

/-- No key that is found lies below the first one. -/
theorem le_of_lookup_ne_none {key : String} {first : String × α} {rest : List (String × α)}
    (hordered : (first :: rest).Pairwise fun a b => a.1 < b.1)
    (h : (first :: rest).lookup key ≠ none) : first.1 ≤ key := by
  refine String.not_lt.mp fun hlt => h (lookup_eq_none_of_forall_lt fun entry hentry => ?_)
  rcases List.mem_cons.mp hentry with rfl | hrest
  · exact hlt
  · exact String.lt_trans hlt ((List.pairwise_cons.mp hordered).1 entry hrest)

/-- Ordered entries in which the same is found under every key are the same. -/
theorem eq_of_lookup_eq {a b : List (String × α)} (ha : a.Pairwise fun x y => x.1 < y.1)
    (hb : b.Pairwise fun x y => x.1 < y.1) (h : ∀ key, a.lookup key = b.lookup key) : a = b := by
  induction a generalizing b with
  | nil =>
    cases b with
    | nil => rfl
    | cons first' rest' =>
      have hfirst' := h first'.1
      rw [List.lookup_cons_self] at hfirst'
      contradiction
  | cons first rest ih =>
    cases b with
    | nil =>
      have hfirst := h first.1
      rw [List.lookup_cons_self] at hfirst
      contradiction
    | cons first' rest' =>
      have hfirst := h first.1
      have hfirst' := h first'.1
      rw [List.lookup_cons_self] at hfirst hfirst'
      have hkey : first.1 = first'.1 := String.le_antisymm
        (le_of_lookup_ne_none ha (hfirst' ▸ Option.some_ne_none _))
        (le_of_lookup_ne_none hb (hfirst ▸ Option.some_ne_none _))
      rw [hkey, List.lookup_cons_self] at hfirst
      obtain ⟨hbelow, hrest⟩ := List.pairwise_cons.mp ha
      obtain ⟨hbelow', hrest'⟩ := List.pairwise_cons.mp hb
      -- Neither rest has the common first key, and under the others nothing changes.
      have hothers : ∀ key, rest.lookup key = rest'.lookup key := by
        intro key
        by_cases heq : key = first.1
        · rw [heq, lookup_eq_none_of_forall_lt hbelow, hkey, lookup_eq_none_of_forall_lt hbelow']
        · have hother := h key
          rwa [List.lookup_cons, List.lookup_cons, ← hkey, beq_false_of_ne heq] at hother
      rw [ih hrest hrest' hothers, Prod.ext hkey (Option.some.inj hfirst)]

/-- Dictionaries in which the same is found under every key are equal. -/
theorem ext_get? {a b : Dictionary α} (h : ∀ key, a.get? key = b.get? key) : a = b :=
  ext (eq_of_lookup_eq a.ordered b.ordered h)

/-- Entries under different keys can be put in in either order. -/
theorem insert_comm (dictionary : Dictionary α) {key other : String} (hne : key ≠ other)
    (value value' : α) : (dictionary.insert key value).insert other value' =
      (dictionary.insert other value').insert key value := by
  apply ext_get?
  intro found
  by_cases hkey : found = key
  · rw [hkey, get?_insert_of_ne _ hne, get?_insert_self, get?_insert_self]
  · by_cases hother : found = other
    · rw [hother, get?_insert_self, get?_insert_of_ne _ hne.symm, get?_insert_self]
    · rw [get?_insert_of_ne _ hother, get?_insert_of_ne _ hkey, get?_insert_of_ne _ hkey,
        get?_insert_of_ne _ hother]

/-- In the dictionary of some entries the last one of a key is found. -/
theorem get?_ofList (entries : List (String × α)) (key : String) :
    (ofList entries).get? key = entries.reverse.lookup key := by
  induction entries using List.reverseRecOn with
  | nil => rfl
  | append_singleton before last ih =>
    have hinsert : ofList (before ++ [last]) = (ofList before).insert last.1 last.2 := by
      simp [ofList]
    rw [hinsert, List.reverse_concat, List.lookup_cons]
    by_cases hkey : key = last.1
    · rw [hkey, get?_insert_self, beq_self_eq_true]
    · rw [get?_insert_of_ne _ hkey, beq_false_of_ne hkey]
      exact ih

/-- A value is found exactly when it stands under the key in an entry behind which there is none
with this key. -/
theorem get?_ofList_eq_some_iff {entries : List (String × α)} {key : String} {value : α} :
    (ofList entries).get? key = some value ↔
      ∃ before after, entries = before ++ (key, value) :: after ∧
        ∀ entry ∈ after, entry.1 ≠ key := by
  rw [get?_ofList, List.lookup_eq_some_iff]
  constructor
  · rintro ⟨after, before, hentries, hafter⟩
    refine ⟨before.reverse, after.reverse, ?_, ?_⟩
    · rw [← List.reverse_reverse entries, hentries]
      simp
    · intro entry hentry
      have hkey := hafter entry (List.mem_reverse.mp hentry)
      exact (bne_iff_ne.mp hkey).symm
  · rintro ⟨before, after, rfl, hafter⟩
    refine ⟨after.reverse, before.reverse, by simp, ?_⟩
    intro entry hentry
    exact bne_iff_ne.mpr (hafter entry (List.mem_reverse.mp hentry)).symm

/-- The order of entries under different keys does not matter. -/
theorem ofList_eq_of_perm {entries entries' : List (String × α)} (h : entries.Perm entries')
    (hkeys : (entries.map (·.1)).Nodup) : ofList entries = ofList entries' := by
  apply h.foldl_eq'
  intro first hfirst second hsecond dictionary
  by_cases heq : first = second
  · rw [heq]
  · have hne : first.1 ≠ second.1 := fun hkey =>
      heq (List.inj_on_of_nodup_map hkeys hfirst hsecond hkey)
    exact dictionary.insert_comm hne first.2 second.2

end OfflineSigner.Dictionary
