import OfflineSigner.Proofs.Json.RoundTrip

/-!
# Written values stay on one line

Nothing is put between the parts of a value, and within a text every control below the space is
written as an escape. So no character of a written value without doubles lies below the space,
whatever its texts hold; in particular none is a line feed.
-/

namespace OfflineSigner.Json

/-- A character that may stand within a line: none of the controls below the space. -/
def StaysOnLine (c : Char) : Prop := 0x20 ≤ c.toNat

instance (c : Char) : Decidable (StaysOnLine c) := Nat.decLe _ _

/-- Fixed characters are checked one by one. -/
theorem staysOnLine_of_all {chars : List Char} (h : chars.all (StaysOnLine ·) = true) :
    ∀ c ∈ chars, StaysOnLine c := by
  simpa using h

/-- A digit stays on its line. -/
theorem staysOnLine_of_isDigit {c : Char} (h : c.isDigit = true) : StaysOnLine c := by
  simp only [Char.isDigit, Bool.and_eq_true, decide_eq_true_eq] at h
  exact le_trans (by decide) h.1

/-- A character within quotes is written with characters that stay on the line. -/
theorem staysOnLine_escape (c : Char) : ∀ written ∈ escape c, StaysOnLine written := by
  unfold escape
  repeat' split
  -- Where an escape has a letter of its own there is nothing but fixed characters.
  all_goals try exact staysOnLine_of_all rfl
  · rename_i hcontrol
    have hdigit : ∀ value < 16, StaysOnLine (Hex.digit value) := by
      decide
    have hmark : ∀ written ∈ ['\\', 'u', '0', '0'], StaysOnLine written :=
      staysOnLine_of_all rfl
    have hhigh := hdigit (c.toNat / 16) (by omega)
    have hlow := hdigit (c.toNat % 16) (by omega)
    simp only [List.forall_mem_cons] at hmark ⊢
    exact ⟨hmark.1, hmark.2.1, hmark.2.2.1, hmark.2.2.2.1, hhigh, hlow, hmark.2.2.2.2⟩
  · rw [List.forall_mem_singleton, StaysOnLine]
    omega

/-- A text is written on one line. -/
theorem staysOnLine_quoted (text : String) : ∀ c ∈ quoted text, StaysOnLine c := by
  intro c hc
  simp only [quoted, List.cons_append, List.mem_cons, List.mem_append, List.mem_flatMap,
    List.not_mem_nil, or_false] at hc
  rcases hc with rfl | ⟨inner, -, hc⟩ | rfl
  · decide
  · exact staysOnLine_escape inner c hc
  · decide

/-- An integer is written on one line. -/
theorem staysOnLine_integerChars (n : Int) : ∀ c ∈ integerChars n, StaysOnLine c := by
  have hdigits : ∀ c ∈ Decimal.digits n.natAbs, StaysOnLine c := fun c hc =>
    staysOnLine_of_isDigit (Decimal.isDigit_of_mem_digits hc)
  unfold integerChars
  split
  · exact List.forall_mem_cons.mpr ⟨by decide, hdigits⟩
  · exact hdigits

/-- Items that are written on one line are on one line together. -/
theorem staysOnLine_itemChars {items : List Json}
    (hitems : ∀ item ∈ items, ∀ c ∈ item.chars, StaysOnLine c) :
    ∀ c ∈ itemChars items, StaysOnLine c := by
  induction items with
  | nil => exact staysOnLine_of_all rfl
  | cons item rest ih =>
    rw [List.forall_mem_cons] at hitems
    rw [itemChars, List.cons_append, List.forall_mem_cons, List.forall_mem_append]
    exact ⟨by decide, hitems.1, ih hitems.2⟩

/-- Members whose values are written on one line are on one line together. -/
theorem staysOnLine_memberChars {members : List (String × Json)}
    (hmembers : ∀ member ∈ members, ∀ c ∈ member.2.chars, StaysOnLine c) :
    ∀ c ∈ memberChars members, StaysOnLine c := by
  induction members with
  | nil => exact staysOnLine_of_all rfl
  | cons member rest ih =>
    rw [List.forall_mem_cons] at hmembers
    simp only [memberChars, List.cons_append, List.append_assoc, List.forall_mem_cons,
      List.forall_mem_append]
    exact ⟨by decide, staysOnLine_quoted member.1, by decide, hmembers.1, ih hmembers.2⟩

/-- A value without doubles is written on one line. -/
theorem staysOnLine_chars {value : Json} (h : Exact value) : ∀ c ∈ value.chars, StaysOnLine c := by
  induction h with
  | null => exact staysOnLine_of_all rfl
  | boolean value => cases value <;> exact staysOnLine_of_all rfl
  | integer hlow hhigh => exact staysOnLine_integerChars _
  | string text => exact staysOnLine_quoted text
  | @array items hexact ih =>
    cases items with
    | nil => exact staysOnLine_of_all rfl
    | cons item rest =>
      rw [List.forall_mem_cons] at ih
      rw [chars, List.cons_append, List.forall_mem_cons, List.forall_mem_append]
      exact ⟨by decide, ih.1, staysOnLine_itemChars ih.2⟩
  | @object members hexact ih =>
    cases members with
    | nil => exact staysOnLine_of_all rfl
    | cons member rest =>
      rw [List.forall_mem_cons] at ih
      simp only [chars, List.cons_append, List.append_assoc, List.forall_mem_cons,
        List.forall_mem_append]
      exact ⟨by decide, staysOnLine_quoted member.1, by decide, ih.1, staysOnLine_memberChars ih.2⟩

/-- The text of a value without doubles holds no line feed. -/
theorem newline_notMem_render {value : Json} (h : Exact value) : '\n' ∉ value.render.toList := by
  rw [render, String.toList_ofList]
  intro hline
  exact absurd (staysOnLine_chars h '\n' hline) (by decide)

end OfflineSigner.Json
