import OfflineSigner.Bytes.Utf8
import OfflineSigner.Data.Dictionary

/-!
# The order of texts and of their bytes

Texts are compared code point by code point. Their UTF-8 bytes, compared one by one, stand in the
same order: a larger code point has a larger first byte that differs, be its encoding longer or of
the same length, and no encoding is the beginning of another one.
-/

namespace OfflineSigner

/-- Lists whose first bytes are in order are in order if their rests are, should the first bytes be
equal. -/
theorem ofNat_cons_lt_cons {a b : Nat} {rest rest' : List UInt8} (h : a ≤ b) (hb : b < 256)
    (hrest : a = b → rest < rest') : UInt8.ofNat a :: rest < UInt8.ofNat b :: rest' := by
  rcases Nat.lt_or_eq_of_le h with hlt | rfl
  · refine List.cons_lt_cons_iff.mpr (Or.inl ?_)
    rw [UInt8.lt_iff_toNat_lt, UInt8.toNat_ofNat_of_lt' (Nat.lt_trans hlt hb),
      UInt8.toNat_ofNat_of_lt' hb]
    exact hlt
  · exact List.cons_lt_cons_iff.mpr (Or.inr ⟨rfl, hrest rfl⟩)

/-- The bytes of a character stand before those of a larger one, whatever follows. -/
theorem utf8EncodeChar_append_lt {c d : Char} (h : c < d) (rest rest' : List UInt8) :
    String.utf8EncodeChar c ++ rest < String.utf8EncodeChar d ++ rest' := by
  have hcode : c.val.toNat < d.val.toNat := h
  have hbound : d.val.toNat < 0x110000 := by
    have hvalid := d.valid
    unfold UInt32.isValidChar Nat.isValidChar at hvalid
    omega
  have hdigit (n : Nat) : n / 4096 = n / 64 / 64 ∧ n / 262144 = n / 64 / 64 / 64 := by omega
  unfold String.utf8EncodeChar
  generalize c.val.toNat = v at hcode
  generalize d.val.toNat = w at hcode hbound
  dsimp only
  rw [(hdigit v).1, (hdigit v).2, (hdigit w).1, (hdigit w).2]
  -- Byte by byte the larger code point has the larger digit, and not all digits are equal.
  repeat' split
  all_goals
    repeat refine ofNat_cons_lt_cons (by omega) (by omega) fun _ => ?_
    omega

/-- Of two texts the smaller one has the smaller bytes. -/
theorem utf8_lt_utf8 {a b : String} (h : a < b) : utf8 a < utf8 b := by
  rw [String.lt_iff] at h
  unfold utf8
  generalize a.toList = chars at h
  generalize b.toList = others at h
  induction chars generalizing others with
  | nil =>
    cases others with
    | nil => exact absurd h (List.lt_irrefl [])
    | cons d others =>
      obtain ⟨first, rest, hbytes⟩ :=
        List.exists_cons_of_ne_nil (String.utf8EncodeChar_ne_nil (c := d))
      rw [List.flatMap_nil, List.flatMap_cons, hbytes, List.cons_append]
      exact List.nil_lt_cons _ _
  | cons c chars ih =>
    cases others with
    | nil => exact absurd h (List.not_lt_nil _)
    | cons d others =>
      rw [List.flatMap_cons, List.flatMap_cons]
      rcases List.cons_lt_cons_iff.mp h with hfirst | ⟨rfl, hrest⟩
      · exact utf8EncodeChar_append_lt hfirst _ _
      · exact List.append_left_lt (ih others hrest)

/-- The keys of a dictionary stand in strictly increasing order of their bytes. -/
theorem Dictionary.pairwise_utf8 {α : Type} (dictionary : Dictionary α) :
    dictionary.toList.Pairwise fun a b => utf8 a.1 < utf8 b.1 :=
  dictionary.ordered.imp utf8_lt_utf8

end OfflineSigner
