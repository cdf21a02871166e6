/-!
# Searching a list of all values

In a list that leaves no value out, a search for something that at most one value has finds exactly
the value that has it. So neither the order of the list nor repetitions in it matter.
-/

namespace OfflineSigner.List

variable {α : Type} {values others : List α} {p : α → Bool}

/-- The value that is found is the one that has what is wanted. -/
theorem find?_eq_some_iff_of_unique (hall : ∀ value, value ∈ values)
    (hunique : ∀ value other, p value = true → p other = true → value = other) {value : α} :
    values.find? p = some value ↔ p value = true := by
  constructor
  · exact List.find?_some
  · intro hvalue
    cases hfound : values.find? p with
    | none => exact absurd hvalue (List.find?_eq_none.mp hfound value (hall value))
    | some found => rw [hunique found value (List.find?_some hfound) hvalue]

/-- Another list of all values gives the same. -/
theorem find?_eq_find? (hall : ∀ value, value ∈ values) (hothers : ∀ value, value ∈ others)
    (hunique : ∀ value other, p value = true → p other = true → value = other) :
    values.find? p = others.find? p := by
  apply Option.ext
  intro value
  rw [find?_eq_some_iff_of_unique hall hunique, find?_eq_some_iff_of_unique hothers hunique]

/-- A value that is searched for by a key of its own is found by it. -/
theorem find?_key_eq_some_iff {β : Type} [BEq β] [LawfulBEq β] {key : α → β}
    (hall : ∀ value, value ∈ values) (hkey : Function.Injective key) {wanted : β} {value : α} :
    values.find? (fun other => key other == wanted) = some value ↔ wanted = key value := by
  rw [find?_eq_some_iff_of_unique hall, beq_iff_eq, eq_comm]
  intro first second hfirst hsecond
  exact hkey ((beq_iff_eq.mp hfirst).trans (beq_iff_eq.mp hsecond).symm)

end OfflineSigner.List
