import OfflineSigner.Proofs.CommandLine.Options

/-!
# The options of one name set apart

An option that may be repeated can be set apart from the others. As long as its values fit, it
decides neither which of the other options count nor with which fault, and the environment has no
part in it. So a reader for which the option only updates what the others make up does so for whole
lists of options. If a value does not fit and nothing else is wrong, the first such value is refused.
-/

namespace OfflineSigner.CommandLine

open OfflineSigner.Except

/-- The options that are given under other names. -/
def others (name : String) (given : Given) : Given :=
  given.filter (·.1 != name)

/-- The values that are given under a name, in order. -/
def valuesOf (name : String) (given : Given) : List String :=
  (given.filter (·.1 == name)).map (·.2)

variable {name other value : String} {given accepted : Given} {shape : OptionShape}
  {occurrences : List Occurrence}

/-- The values of options behind others stand behind theirs. -/
theorem valuesOf_append (name : String) (given more : Given) :
    valuesOf name (given ++ more) = valuesOf name given ++ valuesOf name more := by
  simp [valuesOf]

/-- The value that is found is the first one given. -/
theorem lookup_eq_head? (name : String) (given : Given) :
    given.lookup name = (valuesOf name given).head? := by
  induction given with
  | nil => rfl
  | cons entry rest ih =>
    obtain ⟨key, value⟩ := entry
    by_cases hkey : name = key
    · simp [valuesOf, hkey]
    · rw [List.lookup_cons, beq_false_of_ne hkey, valuesOf,
        List.filter_cons_of_neg (by simpa using Ne.symm hkey)]
      exact ih

/-- Setting a name apart keeps the values under every other one. -/
theorem valuesOf_others (hne : other ≠ name) (given : Given) :
    valuesOf other (others name given) = valuesOf other given := by
  rw [valuesOf, valuesOf, others, List.filter_filter]
  congr 2
  funext entry
  by_cases hother : entry.1 = other
  · simp [hother, hne]
  · simp [hother]

/-- Setting a name apart keeps what is found under every other one. -/
theorem lookup_others (hne : other ≠ name) (given : Given) :
    (others name given).lookup other = given.lookup other := by
  rw [lookup_eq_head?, lookup_eq_head?, valuesOf_others hne]

/-- No value is left under the name that is set apart. -/
theorem valuesOf_others_self (name : String) (given : Given) :
    valuesOf name (others name given) = [] := by
  simp [valuesOf, others]

/-- A further value under the name that is set apart makes no difference. -/
theorem others_append_self (name value : String) (given : Given) :
    others name (given ++ [(name, value)]) = others name given := by
  simp [others]

/-! ## Accepting options -/

/-- An option that counts has a value that fits and is put behind those that did before. -/
theorem eq_append_of_accept (h : accept shape value given = .ok accepted) :
    shape.fault? value = none ∧ accepted = given ++ [(shape.name, value)] := by
  rw [accept] at h
  split at h
  · contradiction
  · cases hfault : shape.fault? value with
    | some fault =>
      rw [hfault] at h
      contradiction
    | none =>
      rw [hfault] at h
      exact ⟨rfl, (Except.ok.inj h).symm⟩

/-- Options that count have values that fit and are put behind those that did before. -/
theorem eq_append_of_acceptAll (h : acceptAll occurrences given = .ok accepted) :
    (∀ occurrence ∈ occurrences, occurrence.shape.fault? occurrence.value = none) ∧
      accepted = given ++ occurrences.map Occurrence.entry := by
  induction occurrences generalizing given with
  | nil => simpa using (Except.ok.inj h).symm
  | cons first rest ih =>
    obtain ⟨next, hfirst, hrest⟩ := bind_eq_ok_iff.mp h
    obtain ⟨hfits, rfl⟩ := eq_append_of_accept hfirst
    obtain ⟨hothers, rfl⟩ := ih hrest
    exact ⟨List.forall_mem_cons.mpr ⟨hfits, hothers⟩, by simp [Occurrence.entry]⟩

/-- Whether an option counts does not depend on the options of another name. -/
theorem accept_others (hne : shape.name ≠ name) :
    accept shape value (others name given) = (accept shape value given).map (others name) := by
  rw [accept, accept, lookup_others hne]
  split
  · rfl
  · cases shape.fault? value with
    | some fault => rfl
    | none => simp [Except.map, others, hne]

/-- An option that may be repeated and whose value fits only counts under its own name. -/
theorem accept_self (hrepeatable : shape.repeatable = true) (hfits : shape.fault? value = none) :
    accept shape value given = .ok (given ++ [(shape.name, value)]) := by
  simp [accept, hrepeatable, hfits]

/-- How the options of other names count does not depend on those of one name, as long as these may
be repeated and their values fit. -/
theorem acceptAll_others (h : ∀ occurrence ∈ occurrences, occurrence.shape.name = name →
      occurrence.shape.repeatable = true ∧ occurrence.shape.fault? occurrence.value = none)
    (given : Given) : acceptAll (occurrences.filter (·.shape.name != name)) (others name given) =
      (acceptAll occurrences given).map (others name) := by
  induction occurrences generalizing given with
  | nil => rfl
  | cons first rest ih =>
    obtain ⟨hfirst, hothers⟩ := List.forall_mem_cons.mp h
    by_cases hname : first.shape.name = name
    · obtain ⟨hrepeatable, hfits⟩ := hfirst hname
      rw [List.filter_cons_of_neg (by simpa using hname), acceptAll_cons,
        accept_self hrepeatable hfits, ok_bind, ← ih hothers, hname, others_append_self]
    · rw [List.filter_cons_of_pos (by simpa using hname), acceptAll_cons, acceptAll_cons,
        accept_others hname]
      cases accept first.shape first.value given with
      | error fault => rfl
      | ok accepted => exact ih hothers accepted

/-- If all options of other names count, the first value of a name that does not fit is refused. -/
theorem acceptAll_eq_error {fault : ValueFault} (hrepeatable : shape.repeatable = true)
    (h : ∀ occurrence ∈ occurrences, occurrence.shape.name = shape.name → occurrence.shape = shape)
    (hothers : acceptAll (occurrences.filter (·.shape.name != shape.name))
      (others shape.name given) = .ok accepted)
    (hfirst : (valuesOf shape.name (occurrences.map Occurrence.entry)).find?
      (fun value => (shape.fault? value).isSome) = some value)
    (hfault : shape.fault? value = some fault) :
    acceptAll occurrences given = .error (fault.of shape.name) := by
  induction occurrences generalizing given with
  | nil => contradiction
  | cons first rest ih =>
    obtain ⟨hshape, hrest⟩ := List.forall_mem_cons.mp h
    by_cases hname : first.shape.name = shape.name
    · rw [List.filter_cons_of_neg (by simpa using hname)] at hothers
      rw [acceptAll_cons, hshape hname]
      have hvalues : valuesOf shape.name ((first :: rest).map Occurrence.entry) =
          first.value :: valuesOf shape.name (rest.map Occurrence.entry) := by
        simp [valuesOf, Occurrence.entry, hname]
      rw [hvalues, List.find?_cons] at hfirst
      cases hfits : shape.fault? first.value with
      | some refused =>
        rw [hfits] at hfirst
        obtain rfl := Option.some.inj hfirst
        rw [hfits] at hfault
        cases hfault
        simp [accept, hrepeatable, hfits, error_bind]
      | none =>
        rw [hfits] at hfirst
        rw [← others_append_self shape.name first.value given] at hothers
        rw [accept_self hrepeatable hfits, ok_bind]
        exact ih hrest hothers hfirst
    · rw [List.filter_cons_of_pos (by simpa using hname), acceptAll_cons, accept_others hname]
        at hothers
      have hvalues : valuesOf shape.name ((first :: rest).map Occurrence.entry) =
          valuesOf shape.name (rest.map Occurrence.entry) := by
        simp [valuesOf, Occurrence.entry, hname]
      rw [hvalues] at hfirst
      obtain ⟨next, hnext, hothers⟩ := bind_eq_ok_iff.mp hothers
      obtain ⟨counted, hcounted, rfl⟩ := map_eq_ok_iff.mp hnext
      rw [acceptAll_cons, hcounted]
      exact ih hrest hothers hfirst

/-! ## Variables of the environment -/

variable {environment : String → Option String} {shapes : List OptionShape}

/-- The environment is not asked for an option that no variable stands in for. -/
theorem addVariables_cons_of_none (h : shape.fallback? = none) :
    addVariables environment (shape :: shapes) given = addVariables environment shapes given := by
  rw [addVariables, h]
  cases given.lookup shape.name <;> rfl

/-- The options that the environment gives do not depend on those of a name that no variable stands
in for. -/
theorem addVariables_others (h : ∀ shape ∈ shapes, shape.name = name → shape.fallback? = none)
    (given : Given) : addVariables environment shapes (others name given) =
      (addVariables environment shapes given).map (others name) := by
  induction shapes generalizing given with
  | nil => rfl
  | cons shape rest ih =>
    obtain ⟨hfirst, hothers⟩ := List.forall_mem_cons.mp h
    by_cases hname : shape.name = name
    · have hfallback := hfirst hname
      rw [addVariables_cons_of_none hfallback, addVariables_cons_of_none hfallback, ih hothers]
    · rw [addVariables, addVariables, lookup_others hname]
      split
      · rw [accept_others hname]
        cases accept shape _ given with
        | error fault => rfl
        | ok accepted => exact ih hothers accepted
      · exact ih hothers given

/-- Under such a name the environment adds no value. -/
theorem valuesOf_of_addVariables (h : ∀ shape ∈ shapes, shape.name = name → shape.fallback? = none)
    (hadded : addVariables environment shapes given = .ok accepted) :
    valuesOf name accepted = valuesOf name given := by
  induction shapes generalizing given with
  | nil =>
    obtain rfl := Except.ok.inj hadded
    rfl
  | cons shape rest ih =>
    obtain ⟨hfirst, hothers⟩ := List.forall_mem_cons.mp h
    by_cases hname : shape.name = name
    · rw [addVariables_cons_of_none (hfirst hname)] at hadded
      exact ih hothers hadded
    · rw [addVariables] at hadded
      split at hadded
      · obtain ⟨next, haccept, hrest⟩ := bind_eq_ok_iff.mp hadded
        obtain ⟨-, rfl⟩ := eq_append_of_accept haccept
        rw [ih hothers hrest]
        simp [valuesOf, hname]
      · exact ih hothers hadded

/-! ## Readers -/

namespace OptionReader

variable {α β : Type} {reader : OptionReader α}

/-- What a reader makes of options does not depend on those of a name. -/
def Ignores (reader : OptionReader α) (name : String) : Prop :=
  ∀ given, reader.build (others name given) = reader.build given

namespace Ignores

/-- Nor does what is made of it. -/
theorem map (f : α → β) (h : reader.Ignores name) : (f <$> reader).Ignores name := by
  intro given
  rw [build_map, build_map, h]

/-- Nor does what two such readers make up. -/
theorem seq {function : OptionReader (α → β)} (hfunction : function.Ignores name)
    (h : reader.Ignores name) : (function <*> reader).Ignores name := by
  intro given
  rw [build_seq, build_seq, hfunction, h]

/-- A variable that stands in for an option changes nothing about that. -/
theorem orVariable (h : reader.Ignores name) (variableName : String) :
    (reader.orVariable variableName).Ignores name := h

/-- Nor does it matter whether the value may be negative. -/
theorem allowingNegative (h : reader.Ignores name) : reader.allowingNegative.Ignores name := h

/-- If the options of a name update what a reader makes of the others, they do so as well when a
further option is read. -/
theorem build_seq {function : OptionReader (α → β)} {update : β → β} (h : reader.Ignores name)
    (hfunction : function.build given =
      (function.build (others name given)).map fun f value => update (f value)) :
    (function <*> reader).build given =
      ((function <*> reader).build (others name given)).map update := by
  rw [OptionReader.build_seq, OptionReader.build_seq, hfunction, h]
  cases function.build (others name given) with
  | error fault => rfl
  | ok f => cases reader.build given <;> rfl

variable {read : String → Except ValueFault α}

/-- An option of another name that must be given is read without them. -/
theorem required (hne : other ≠ name) : (OptionReader.required other read).Ignores name := by
  intro given
  simp only [OptionReader.required, lookup_others hne]

/-- So is one that may be left out. -/
theorem optional (hne : other ≠ name) : (OptionReader.optional other read).Ignores name := by
  intro given
  simp only [OptionReader.optional, lookup_others hne]

/-- So is one with a default. -/
theorem withDefault (hne : other ≠ name) (default : α) :
    (OptionReader.withDefault other read default).Ignores name := by
  intro given
  simp only [OptionReader.withDefault, lookup_others hne]

/-- So is a flag. -/
theorem flag (hne : other ≠ name) : (OptionReader.flag other).Ignores name := by
  intro given
  simp only [OptionReader.flag, lookup_others hne]

end Ignores

/-- An option that may be given any number of times is read from its values. -/
theorem build_many (name : String) (read : String → Except ValueFault α) (given : Given) :
    (many name read).build given = (valuesOf name given).mapM (valueOf name read) := by
  rw [many, valuesOf, List.mapM_map]
  rfl

/-- If the options of a name only update what a reader makes of the other options, they only update
what it makes of the environment and all options. -/
theorem read_eq_map {update : α → α}
    (hoccurrences : ∀ occurrence ∈ occurrences, occurrence.shape.name = name →
      occurrence.shape.repeatable = true ∧ occurrence.shape.fault? occurrence.value = none)
    (hshapes : ∀ shape ∈ reader.shapes, shape.name = name → shape.fallback? = none)
    (hbuild : ∀ given, valuesOf name given = valuesOf name (occurrences.map Occurrence.entry) →
      reader.build given = (reader.build (others name given)).map update) :
    reader.read environment occurrences =
      (reader.read environment (occurrences.filter (·.shape.name != name))).map update := by
  have hothers := acceptAll_others hoccurrences []
  rw [show others name [] = [] from rfl] at hothers
  rw [read, read, hothers]
  cases haccepted : acceptAll occurrences [] with
  | error fault => rfl
  | ok accepted =>
    obtain ⟨-, rfl⟩ := eq_append_of_acceptAll haccepted
    rw [ok_bind, Except.map, ok_bind, addVariables_others hshapes]
    cases hadded : addVariables environment reader.shapes
        ([] ++ occurrences.map Occurrence.entry) with
    | error fault => rfl
    | ok added => exact hbuild added (valuesOf_of_addVariables hshapes hadded)

end OptionReader

end OfflineSigner.CommandLine
