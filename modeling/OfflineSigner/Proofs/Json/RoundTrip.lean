import OfflineSigner.Proofs.Json.Integer
import OfflineSigner.Proofs.Json.Text

/-!
# JSON text reads back

A value without doubles is read back from its text, with every member in its place. The proof
follows the value: each part is read from the front of what is left, and what is left begins with
a comma or a bracket, which is no part of a number. The reader's fuel is the length of its input,
and every step it takes is paid for by a character.
-/

namespace OfflineSigner.Json

/-- Values whose numbers are all integers that are held exactly. -/
inductive Exact : Json → Prop
  | null : Exact .null
  | boolean (value : Bool) : Exact (.boolean value)
  | integer {n : Int} (hlow : -(1 <<< 63) ≤ n) (hhigh : n < 1 <<< 64) : Exact (.integer n)
  | string (text : String) : Exact (.string text)
  | array {items : List Json} (hitems : ∀ item ∈ items, Exact item) : Exact (.array items)
  | object {members : List (String × Json)} (hmembers : ∀ member ∈ members, Exact member.2) :
      Exact (.object members)

/-- Whether a value is read from the front of what its text begins. -/
def IsReadBack (value : Json) : Prop :=
  ∀ (fuel : Nat) (rest : List Char), value.chars.length ≤ fuel → EndsNumber rest →
    readValue fuel (value.chars ++ rest) = some (value, rest)

/-- A character that no value begins with: a blank or a closing bracket. -/
def startsNoValue (c : Char) : Bool :=
  c == ' ' || c == '\n' || c == '\t' || c == '\r' || c == ']' || c == '}'

/-- A digit may begin a value. -/
theorem startsNoValue_of_isDigit {c : Char} (h : c.isDigit = true) : startsNoValue c = false := by
  rw [Bool.eq_false_iff]
  intro hstart
  simp only [startsNoValue, Bool.or_eq_true, beq_iff_eq] at hstart
  rcases hstart with ((((rfl | rfl) | rfl) | rfl) | rfl) | rfl <;> contradiction

/-- The text of a number begins with a digit or with a sign. -/
theorem exists_integerChars_eq_cons (n : Int) :
    ∃ first rest, integerChars n = first :: rest ∧ (first.isDigit = true ∨ first = '-') := by
  unfold integerChars
  split
  · exact ⟨'-', _, rfl, Or.inr rfl⟩
  · obtain ⟨first, others, hdigits, hfirst⟩ := Decimal.exists_digits_eq_cons n.natAbs
    exact ⟨first, others, hdigits, Or.inl hfirst⟩

/-- The text of a value begins with neither a blank nor a closing bracket. -/
theorem exists_chars_eq_cons {value : Json} (h : Exact value) :
    ∃ first rest, value.chars = first :: rest ∧ startsNoValue first = false := by
  cases h with
  | null => exact ⟨_, _, rfl, rfl⟩
  | boolean value => cases value <;> exact ⟨_, _, rfl, rfl⟩
  | @integer n hlow hhigh =>
    obtain ⟨first, rest, hchars, hdigit | hsign⟩ := exists_integerChars_eq_cons n
    · exact ⟨first, rest, hchars, startsNoValue_of_isDigit hdigit⟩
    · exact ⟨first, rest, hchars, hsign ▸ rfl⟩
  | string text => exact ⟨_, _, rfl, rfl⟩
  | @array items hitems => cases items <;> exact ⟨_, _, rfl, rfl⟩
  | @object members hmembers => cases members <;> exact ⟨_, _, rfl, rfl⟩

/-- No blank is dropped in front of a value. -/
theorem skipBlanks_cons {first : Char} (hfirst : startsNoValue first = false) (rest : List Char) :
    skipBlanks (first :: rest) = first :: rest := by
  simp only [startsNoValue, Bool.or_eq_false_iff] at hfirst
  simp [skipBlanks, hfirst]

/-- What begins with a digit or a sign is read as a number. -/
theorem readValue_number {first : Char} (hfirst : first.isDigit = true ∨ first = '-')
    (rest : List Char) (fuel : Nat) :
    readValue (fuel + 1) (first :: rest) = readNumber (first :: rest) := by
  have hskip : skipBlanks (first :: rest) = first :: rest :=
    skipBlanks_cons (hfirst.elim startsNoValue_of_isDigit fun hsign => hsign ▸ rfl) rest
  rw [readValue, hskip]
  split
  case h_7 => rfl
  -- Each other case begins with a letter, a quote or a bracket.
  all_goals
    rename_i heq
    rw [(List.cons.inj heq).1] at hfirst
    exact absurd hfirst (by decide)

/-- Items after the first end no number. -/
theorem endsNumber_itemChars (items : List Json) (rest : List Char) :
    EndsNumber (itemChars items ++ rest) := by
  intro c hc
  cases items with
  | nil => cases hc; decide
  | cons item items => cases hc; decide

/-- Members after the first end no number. -/
theorem endsNumber_memberChars (members : List (String × Json)) (rest : List Char) :
    EndsNumber (memberChars members ++ rest) := by
  intro c hc
  cases members with
  | nil => cases hc; decide
  | cons member members => cases hc; decide

/-- Items that are read back one by one are read back up to the closing bracket. -/
theorem readItems_itemChars {items : List Json} (hitems : ∀ item ∈ items, item.IsReadBack)
    (fuel : Nat) (rest : List Char) (hfuel : (itemChars items).length ≤ fuel) :
    readItems fuel (itemChars items ++ rest) = some (items, rest) := by
  induction items generalizing fuel with
  | nil =>
    cases fuel with
    | zero => contradiction
    | succ fuel => rfl
  | cons item items ih =>
    cases fuel with
    | zero => contradiction
    | succ fuel =>
      have hlen : item.chars.length + (itemChars items).length ≤ fuel := by
        simpa [itemChars] using hfuel
      have hitem := hitems item List.mem_cons_self fuel (itemChars items ++ rest) (by omega)
        (endsNumber_itemChars items rest)
      have hothers := ih (fun other hother => hitems other (List.mem_cons_of_mem _ hother)) fuel
        (by omega)
      simp only [itemChars, List.cons_append, List.append_assoc]
      change (readValue fuel _).bind (fun read => (readItems fuel read.2).bind fun others =>
        some (read.1 :: others.1, others.2)) = _
      rw [hitem, Option.bind_some, hothers]
      rfl

/-- A member whose value is read back is read back itself. -/
theorem readMember_quoted {value : Json} (hvalue : value.IsReadBack) (name : String) (fuel : Nat)
    (rest : List Char) (hfuel : value.chars.length ≤ fuel) (hrest : EndsNumber rest) :
    readMember (fuel + 1) (quoted name ++ ':' :: (value.chars ++ rest)) =
      some ((name, value), rest) := by
  rw [quoted_append, readMember, skipBlanks_cons (by decide)]
  simp only [readText_escape, Option.bind_eq_bind, Option.bind_some]
  rw [skipBlanks_cons (by decide)]
  simp only [hvalue fuel rest hfuel hrest, Option.bind_some]

/-- Members whose values are read back are read back up to the closing brace. -/
theorem readMembers_memberChars {members : List (String × Json)}
    (hmembers : ∀ member ∈ members, member.2.IsReadBack) (fuel : Nat) (rest : List Char)
    (hfuel : (memberChars members).length ≤ fuel) :
    readMembers fuel (memberChars members ++ rest) = some (members, rest) := by
  induction members generalizing fuel with
  | nil =>
    cases fuel with
    | zero => contradiction
    | succ fuel => rfl
  | cons member members ih =>
    obtain ⟨name, value⟩ := member
    have hlen : value.chars.length + (memberChars members).length + 4 ≤ fuel := by
      simp [memberChars, quoted] at hfuel
      omega
    obtain ⟨fuel, rfl⟩ := Nat.exists_eq_add_of_le' (show 2 ≤ fuel by omega)
    have hvalue : value.IsReadBack := hmembers (name, value) List.mem_cons_self
    have hmember := readMember_quoted hvalue name fuel
      (memberChars members ++ rest) (by omega) (endsNumber_memberChars members rest)
    have hothers := ih (fun other hother => hmembers other (List.mem_cons_of_mem _ hother))
      (fuel + 1) (by omega)
    simp only [memberChars, List.cons_append, List.append_assoc]
    change (readMember (fuel + 1) _).bind (fun read =>
      (readMembers (fuel + 1) read.2).bind fun others => some (read.1 :: others.1, others.2)) = _
    rw [hmember, Option.bind_some, hothers]
    rfl

/-- Behind an opening bracket and the beginning of a value the items are read. -/
theorem readValue_array {first : Char} (hfirst : startsNoValue first = false) (rest : List Char)
    (fuel : Nat) :
    readValue (fuel + 1) ('[' :: first :: rest) =
      (readValue fuel (first :: rest)).bind fun read =>
        (readItems fuel read.2).bind fun others =>
          some (.array (read.1 :: others.1), others.2) := by
  rw [readValue, skipBlanks_cons (by decide)]
  simp only [skipBlanks_cons hfirst]
  split
  · rename_i heq
    rw [(List.cons.inj heq).1] at hfirst
    contradiction
  · rfl

/-- Behind an opening brace and a quote the members are read. -/
theorem readValue_object (rest : List Char) (fuel : Nat) :
    readValue (fuel + 1) ('{' :: '"' :: rest) =
      (readMember fuel ('"' :: rest)).bind fun read =>
        (readMembers fuel read.2).bind fun others =>
          some (.object (read.1 :: others.1), others.2) := by
  rw [readValue, skipBlanks_cons (by decide)]
  rfl

/-- An array of values that are read back is read back. -/
theorem isReadBack_array {items : List Json} (hexact : ∀ item ∈ items, Exact item)
    (hitems : ∀ item ∈ items, item.IsReadBack) : (array items).IsReadBack := by
  intro fuel rest hfuel hrest
  cases items with
  | nil =>
    cases fuel with
    | zero => contradiction
    | succ fuel => rfl
  | cons item items =>
    have hlen : item.chars.length + (itemChars items).length + 1 ≤ fuel := by
      simp only [chars, List.length_append, List.length_cons] at hfuel
      omega
    obtain ⟨fuel, rfl⟩ := Nat.exists_eq_add_of_le' (show 1 ≤ fuel by omega)
    have hitem := hitems item List.mem_cons_self fuel (itemChars items ++ rest) (by omega)
      (endsNumber_itemChars items rest)
    have hothers := readItems_itemChars
      (fun other hother => hitems other (List.mem_cons_of_mem _ hother)) fuel rest (by omega)
    obtain ⟨first, others, hchars, hfirst⟩ := exists_chars_eq_cons (hexact item List.mem_cons_self)
    simp only [chars, List.cons_append, List.append_assoc]
    rw [hchars, List.cons_append] at hitem ⊢
    rw [readValue_array hfirst, hitem, Option.bind_some, hothers]
    rfl

/-- An object of values that are read back is read back. -/
theorem isReadBack_object {members : List (String × Json)}
    (hmembers : ∀ member ∈ members, member.2.IsReadBack) : (object members).IsReadBack := by
  intro fuel rest hfuel hrest
  cases members with
  | nil =>
    cases fuel with
    | zero => contradiction
    | succ fuel => rfl
  | cons member members =>
    obtain ⟨name, value⟩ := member
    have hlen : value.chars.length + (memberChars members).length + 4 ≤ fuel := by
      simp only [chars, quoted, List.length_append, List.length_cons] at hfuel
      omega
    obtain ⟨fuel, rfl⟩ := Nat.exists_eq_add_of_le' (show 2 ≤ fuel by omega)
    have hvalue : value.IsReadBack := hmembers (name, value) List.mem_cons_self
    have hmember := readMember_quoted hvalue name fuel (memberChars members ++ rest) (by omega)
      (endsNumber_memberChars members rest)
    have hothers := readMembers_memberChars
      (fun other hother => hmembers other (List.mem_cons_of_mem _ hother)) (fuel + 1) rest
      (by omega)
    simp only [chars, List.cons_append, List.append_assoc]
    rw [quoted_append] at hmember ⊢
    rw [readValue_object, hmember, Option.bind_some, hothers]
    rfl

/-- A value without doubles is not written as the empty text. -/
theorem render_ne_empty {value : Json} (h : Exact value) : value.render ≠ "" := by
  obtain ⟨first, rest, hchars, -⟩ := exists_chars_eq_cons h
  intro hempty
  have hnil : (String.ofList value.chars).toList = [] := by
    rw [← render, hempty]
    rfl
  rw [String.toList_ofList, hchars] at hnil
  contradiction

/-- A value without doubles is read back from the front of what its text begins. -/
theorem isReadBack_of_exact {value : Json} (h : Exact value) : value.IsReadBack := by
  induction h with
  | null =>
    intro fuel rest hfuel hrest
    cases fuel with
    | zero => contradiction
    | succ fuel => rfl
  | boolean value =>
    intro fuel rest hfuel hrest
    cases value <;> cases fuel <;> first | contradiction | rfl
  | @integer n hlow hhigh =>
    intro fuel rest hfuel hrest
    obtain ⟨first, others, hchars, hfirst⟩ := exists_integerChars_eq_cons n
    have hread := readNumber_integerChars hlow hhigh hrest
    rw [chars, hchars] at hfuel ⊢
    rw [hchars] at hread
    cases fuel with
    | zero => contradiction
    | succ fuel => rw [List.cons_append, readValue_number hfirst, ← List.cons_append, hread]
  | string text =>
    intro fuel rest hfuel hrest
    rw [chars, quoted_append]
    cases fuel with
    | zero => simp [chars, quoted] at hfuel
    | succ fuel =>
      rw [readValue, skipBlanks_cons (by decide)]
      simp only [readText_escape, Option.map_some]
  | array hexact ih => exact isReadBack_array hexact ih
  | object hexact ih => exact isReadBack_object ih

/-- The text of a value without doubles holds exactly that value. -/
theorem parse?_render {value : Json} (h : Exact value) : parse? value.render = some value := by
  have hread := isReadBack_of_exact h (2 * value.chars.length + 2) [] (by omega) endsNumber_nil
  rw [List.append_nil] at hread
  rw [parse?, render, String.toList_ofList, hread]
  rfl

end OfflineSigner.Json
