import OfflineSigner.Proofs.Data.Search
import OfflineSigner.Proofs.Text.Spacing
import OfflineSigner.Text.Name
import Mathlib.Data.List.Forall2

/-!
# Typed names

A name may be typed in any case of its letters and between any white space. Only the letters from
A to Z have a case here: no other character stands for one of them, however much it looks like one
and whatever it folds to. If names consist of such letters and no two of them are the same up to
case, a typed text stands for one of them at most, so it is read as that one wherever it stands in
the list that is searched, and every other text is refused as it was typed.
-/

namespace OfflineSigner.Text

/-- The code points with the Unicode property White_Space. -/
def whiteSpace : List Nat :=
  [0x09, 0x0a, 0x0b, 0x0c, 0x0d, 0x20, 0x85, 0xa0, 0x1680, 0x2000, 0x2001, 0x2002, 0x2003, 0x2004,
    0x2005, 0x2006, 0x2007, 0x2008, 0x2009, 0x200a, 0x2028, 0x2029, 0x202f, 0x205f, 0x3000]

/-- The blank characters are those. -/
theorem isBlank_iff {c : Char} : isBlank c = true ↔ c.toNat ∈ whiteSpace := by
  simp only [isBlank, whiteSpace, Bool.or_eq_true, Bool.and_eq_true, decide_eq_true_eq, beq_iff_eq,
    List.mem_cons, List.not_mem_nil, or_false]
  omega

/-- A character is an ASCII letter. -/
def IsLetter (c : Char) : Prop :=
  (65 ≤ c.toNat ∧ c.toNat ≤ 90) ∨ (97 ≤ c.toNat ∧ c.toNat ≤ 122)

instance (c : Char) : Decidable (IsLetter c) :=
  inferInstanceAs (Decidable (_ ∨ _))

/-- Two characters are the same, or the upper-case and the lower-case form of one ASCII letter. -/
def SameLetter (a b : Char) : Prop :=
  a = b ∨ (65 ≤ a.toNat ∧ a.toNat ≤ 90 ∧ b.toNat = a.toNat + 32) ∨
    (65 ≤ b.toNat ∧ b.toNat ≤ 90 ∧ a.toNat = b.toNat + 32)

/-- A name is typed as a text: its letters stand there in any case, between any white space. -/
def IsTypedAs (name text : String) : Prop :=
  ∃ front typed back : List Char, text.toList = front ++ typed ++ back ∧
    (∀ c ∈ front, c.toNat ∈ whiteSpace) ∧ (∀ c ∈ back, c.toNat ∈ whiteSpace) ∧
    List.Forall₂ SameLetter name.toList typed

/-- A name is typed as it is. -/
theorem isTypedAs_self (name : String) : IsTypedAs name name :=
  ⟨[], name.toList, [], by simp, by simp, by simp, List.forall₂_same.mpr fun _ _ => Or.inl rfl⟩

/-! ## One character -/

/-- In lower case the number of a letter from A to Z is larger by 32; other numbers stay. -/
theorem toNat_lowerAscii (c : Char) :
    (lowerAscii c).toNat = if 65 ≤ c.toNat ∧ c.toNat ≤ 90 then c.toNat + 32 else c.toNat := by
  have hupper : ('A' ≤ c && c ≤ 'Z') = true ↔ 65 ≤ c.toNat ∧ c.toNat ≤ 90 := by
    rw [Bool.and_eq_true, decide_eq_true_eq, decide_eq_true_eq]
    rfl
  by_cases h : 65 ≤ c.toNat ∧ c.toNat ≤ 90
  · have hvalid : (c.toNat + 32).isValidChar := Or.inl (by omega)
    rw [lowerAscii, if_pos (hupper.mpr h), if_pos h, Char.ofNat, dif_pos hvalid]
    rfl
  · rw [lowerAscii, if_neg (mt hupper.mp h), if_neg h]

/-- Characters that are the same in lower case differ in the case of an ASCII letter at most. -/
theorem lowerAscii_eq_lowerAscii_iff {a b : Char} :
    lowerAscii a = lowerAscii b ↔ SameLetter a b := by
  rw [← Char.toNat_inj, toNat_lowerAscii, toNat_lowerAscii, SameLetter, ← Char.toNat_inj]
  split <;> split <;> omega

/-- What is the same as a letter up to case is a letter. -/
theorem IsLetter.of_sameLetter {a b : Char} (ha : IsLetter a) (h : SameLetter a b) :
    IsLetter b := by
  rw [SameLetter, ← Char.toNat_inj] at h
  rw [IsLetter] at ha ⊢
  omega

/-- Letters are not blank. -/
theorem IsLetter.isBlank_eq_false {c : Char} (h : IsLetter c) : isBlank c = false := by
  rw [← Bool.not_eq_true, isBlank_iff]
  simp only [whiteSpace, List.mem_cons, List.not_mem_nil, or_false]
  rw [IsLetter] at h
  omega

/-- Letters are ASCII characters. -/
theorem IsLetter.toNat_lt {c : Char} (h : IsLetter c) : c.toNat < 128 := by
  rw [IsLetter] at h
  omega

/-! ## A whole text -/

/-- Texts that are the same in lower case differ in the case of ASCII letters at most. -/
theorem toLowerAscii_eq_toLowerAscii_iff {text other : String} :
    toLowerAscii text = toLowerAscii other ↔ List.Forall₂ SameLetter text.toList other.toList := by
  rw [toLowerAscii, toLowerAscii, String.ofList_inj, ← List.forall₂_eq_eq_eq,
    List.forall₂_map_left_iff, List.forall₂_map_right_iff]
  simp only [lowerAscii_eq_lowerAscii_iff]

/-- What is typed for letters is letters. -/
theorem forall_isLetter_of_forall₂ {chars typed : List Char} (h : List.Forall₂ SameLetter chars typed)
    (hchars : ∀ c ∈ chars, IsLetter c) : ∀ c ∈ typed, IsLetter c := by
  induction h with
  | nil => exact hchars
  | cons hfirst _ ih =>
    obtain ⟨hletter, hrest⟩ := List.forall_mem_cons.mp hchars
    exact List.forall_mem_cons.mpr ⟨hletter.of_sameLetter hfirst, ih hrest⟩

/-- A name made of letters is typed as the texts that are the same up to case when the white space at
their ends is trimmed. -/
theorem isTypedAs_iff {name : String} (hname : ∀ c ∈ name.toList, IsLetter c) {text : String} :
    IsTypedAs name text ↔ toLowerAscii name = toLowerAscii (trim text) := by
  rw [toLowerAscii_eq_toLowerAscii_iff, trim, String.toList_ofList]
  constructor
  · rintro ⟨front, typed, back, htext, hfront, hback, htyped⟩
    have hvisible : ∀ c ∈ typed, isBlank c = false := fun c hc =>
      (forall_isLetter_of_forall₂ htyped hname c hc).isBlank_eq_false
    rw [htext, trimBlanks_append_right fun c hc => isBlank_iff.mpr (hback c hc),
      trimBlanks_append_left fun c hc => isBlank_iff.mpr (hfront c hc),
      trimBlanks_eq_self hvisible]
    exact htyped
  · intro htyped
    obtain ⟨front, back, hfront, hback, htext⟩ := exists_eq_append_trimBlanks text.toList
    exact ⟨front, trimBlanks text.toList, back, htext, fun c hc => isBlank_iff.mp (hfront c hc),
      fun c hc => isBlank_iff.mp (hback c hc), htyped⟩

/-! ## A list of names -/

/-- Names that are told apart however they are typed: letters only, and no two names the same up to
case. -/
structure ClearNames {α : Type} (name : α → String) : Prop where
  /-- Names consist of letters. -/
  isLetter : ∀ value, ∀ c ∈ (name value).toList, IsLetter c
  /-- Different values have different names in lower case. -/
  injective : Function.Injective fun value => toLowerAscii (name value)

/-- Different values have different names. -/
theorem ClearNames.name_injective {α : Type} {name : α → String} (h : ClearNames name) :
    Function.Injective name := by
  intro first second hsame
  exact h.injective (congrArg toLowerAscii hsame)

/-- How typed names are read: exactly those of the values, whatever the order in which the values
are searched, and everything else is refused as it was typed. -/
structure ReadsNames {α : Type} (name : α → String) (read : String → Except ValueError α) :
    Prop where
  /-- A text is read as a value exactly when the name of the value is typed as this text. -/
  ok_iff : ∀ text value, read text = .ok value ↔ IsTypedAs (name value) text
  /-- No two names are typed as the same text. -/
  unique : ∀ text value other, IsTypedAs (name value) text → IsTypedAs (name other) text →
    value = other
  /-- Every text that no name is typed as is refused, with the text as it was typed. -/
  error_iff : ∀ text error, read text = .error error ↔
    (∀ value, ¬ IsTypedAs (name value) text) ∧ error = .invalidName text
  /-- A text with a character beyond ASCII between the white space at its ends is refused. -/
  ascii : ∀ text, ∀ c ∈ (trim text).toList, 128 ≤ c.toNat → read text = .error (.invalidName text)
  /-- It makes no difference in which order all values are searched. -/
  any_order : ∀ values, (∀ value, value ∈ values) → ∀ text, findNamed values name text = read text

/-- A reader that reads every text alike reads names alike. -/
theorem ReadsNames.congr {α : Type} {name : α → String} {read other : String → Except ValueError α}
    (h : ReadsNames name read) (hother : ∀ text, other text = read text) :
    ReadsNames name other := by
  obtain rfl : other = read := funext hother
  exact h

section

variable {α : Type} {name : α → String} {values : List α}

/-- The value that is found is the one whose name is typed. -/
theorem findNamed_eq_ok_iff (hclear : ClearNames name) (hall : ∀ value, value ∈ values)
    {text : String} {value : α} :
    findNamed values name text = .ok value ↔ IsTypedAs (name value) text := by
  have hfind : values.find? (fun other => sameUpToCase (name other) (trim text)) = some value ↔
      toLowerAscii (trim text) = toLowerAscii (name value) :=
    List.find?_key_eq_some_iff hall hclear.injective
  rw [isTypedAs_iff (hclear.isLetter value), eq_comm (a := toLowerAscii _), ← hfind, findNamed]
  cases values.find? fun other => sameUpToCase (name other) (trim text) <;> simp

/-- Nothing is found exactly when no name is typed. -/
theorem findNamed_eq_error_iff (hclear : ClearNames name) (hall : ∀ value, value ∈ values)
    {text : String} {error : ValueError} :
    findNamed values name text = .error error ↔
      (∀ value, ¬ IsTypedAs (name value) text) ∧ error = .invalidName text := by
  simp only [← findNamed_eq_ok_iff hclear hall, findNamed]
  cases values.find? fun other => sameUpToCase (name other) (trim text) <;> simp [eq_comm]

/-- A name is typed with ASCII characters only. -/
theorem ClearNames.toNat_lt (hclear : ClearNames name) {value : α} {text : String}
    (h : IsTypedAs (name value) text) {c : Char} (hc : c ∈ (trim text).toList) : c.toNat < 128 := by
  rw [isTypedAs_iff (hclear.isLetter value), toLowerAscii_eq_toLowerAscii_iff] at h
  exact (forall_isLetter_of_forall₂ h (hclear.isLetter value) c hc).toNat_lt

/-- Clear names are read exactly. -/
theorem ClearNames.readsNames (hclear : ClearNames name) (hall : ∀ value, value ∈ values) :
    ReadsNames name (findNamed values name) where
  ok_iff _ _ := findNamed_eq_ok_iff hclear hall
  unique text value other hvalue hother := by
    rw [← findNamed_eq_ok_iff hclear hall] at hvalue hother
    exact Except.ok.inj (hvalue.symm.trans hother)
  error_iff _ _ := findNamed_eq_error_iff hclear hall
  ascii text c hc hbeyond := by
    refine (findNamed_eq_error_iff hclear hall).mpr ⟨?_, rfl⟩
    intro value htyped
    have hbelow := hclear.toNat_lt htyped hc
    omega
  any_order others hothers text := by
    rw [findNamed, findNamed, List.find?_eq_find? hothers hall]
    intro first second hfirst hsecond
    exact hclear.injective ((beq_iff_eq.mp hfirst).trans (beq_iff_eq.mp hsecond).symm)

end

end OfflineSigner.Text
