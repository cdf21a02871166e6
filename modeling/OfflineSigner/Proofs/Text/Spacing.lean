import OfflineSigner.Key.Pair
import OfflineSigner.Proofs.Text.Hex

/-!
# Spacing of hexadecimal text

Reading first brings a text into its normal spelling: blanks at the ends go, and so does every
space. A space is itself a blank, so the two steps do not get in each other's way: no space hides a
blank at an end from the first step, and the second step lays no blank bare. Hence the normal
spelling is its own normal spelling, spacing a text out in any way leaves it as it is, and every
reader of hexadecimal text makes the same of a text and of its normal spelling. Blanks other than
the space are not forgiven between two visible characters; they stay, and reading meets them.
-/

namespace OfflineSigner

namespace Text

/-- The second list is the first one spaced out: any number of spaces is put in at any place. -/
inductive Spaced : List Char → List Char → Prop where
  | nil : Spaced [] []
  /-- The next character stays. -/
  | keep {chars spaced : List Char} (c : Char) :
      Spaced chars spaced → Spaced (c :: chars) (c :: spaced)
  /-- A space is put in. -/
  | space {chars spaced : List Char} : Spaced chars spaced → Spaced chars (' ' :: spaced)

/-- Spacing out adds nothing but spaces. -/
theorem Spaced.filter_eq {chars spaced : List Char} (h : Spaced chars spaced) :
    spaced.filter (· != ' ') = chars.filter (· != ' ') := by
  induction h with
  | nil => rfl
  | keep c _ ih => rw [List.filter_cons, List.filter_cons, ih]
  | space _ ih => exact ih

/-- A list is what is left of it without spaces, spaced out. -/
theorem spaced_filter (chars : List Char) : Spaced (chars.filter (· != ' ')) chars := by
  induction chars with
  | nil => exact .nil
  | cons c rest ih =>
    by_cases hspace : c = ' '
    · subst hspace
      exact ih.space
    · have hkept : (c :: rest).filter (· != ' ') = c :: rest.filter (· != ' ') :=
        List.filter_cons_of_pos (bne_iff_ne.mpr hspace)
      rw [hkept]
      exact ih.keep c

/-- Blanks in front of a list are trimmed away. -/
theorem trimBlanks_append_left {front : List Char} (h : ∀ c ∈ front, isBlank c = true)
    (chars : List Char) : trimBlanks (front ++ chars) = trimBlanks chars := by
  rw [trimBlanks, trimBlanks, List.dropWhile_append_of_pos h]

/-- Blanks behind a list are trimmed away. -/
theorem trimBlanks_append_right {back : List Char} (h : ∀ c ∈ back, isBlank c = true)
    (chars : List Char) : trimBlanks (chars ++ back) = trimBlanks chars := by
  have hreverse : ∀ c ∈ back.reverse, isBlank c = true := fun c hc => h c (List.mem_reverse.mp hc)
  rw [trimBlanks, trimBlanks, List.dropWhile_append]
  -- If the list has blanks only, what is behind it is in front as well.
  by_cases hchars : chars.dropWhile isBlank = []
  · have hback : back.dropWhile isBlank = [] := List.dropWhile_eq_nil_iff.mpr h
    simp [hchars, hback]
  · rw [if_neg (by rwa [List.isEmpty_iff]), List.reverse_append,
      List.dropWhile_append_of_pos hreverse]

/-- A list is what trimming leaves of it, between blanks. -/
theorem exists_eq_append_trimBlanks (chars : List Char) :
    ∃ front back, (∀ c ∈ front, isBlank c = true) ∧ (∀ c ∈ back, isBlank c = true) ∧
      chars = front ++ trimBlanks chars ++ back := by
  let rest := (chars.dropWhile isBlank).reverse
  refine ⟨chars.takeWhile isBlank, (rest.takeWhile isBlank).reverse, ?_, ?_, ?_⟩
  · intro c hc
    exact List.mem_takeWhile_imp hc
  · intro c hc
    exact List.mem_takeWhile_imp (List.mem_reverse.mp hc)
  · have hrest : trimBlanks chars ++ (rest.takeWhile isBlank).reverse = chars.dropWhile isBlank := by
      change (rest.dropWhile isBlank).reverse ++ (rest.takeWhile isBlank).reverse = _
      rw [← List.reverse_append, List.takeWhile_append_dropWhile, List.reverse_reverse]
    rw [List.append_assoc, hrest, List.takeWhile_append_dropWhile]

/-- What is trimmed is not trimmed any further. -/
theorem trimBlanks_trimBlanks (chars : List Char) :
    trimBlanks (trimBlanks chars) = trimBlanks chars := by
  obtain ⟨front, back, hfront, hback, hchars⟩ := exists_eq_append_trimBlanks chars
  calc trimBlanks (trimBlanks chars)
      = trimBlanks (front ++ trimBlanks chars) := (trimBlanks_append_left hfront _).symm
    _ = trimBlanks (front ++ trimBlanks chars ++ back) := (trimBlanks_append_right hback _).symm
    _ = trimBlanks chars := by rw [← hchars]

/-- Removing characters that are blanks anyway and dropping the blanks in front commute. -/
theorem dropWhile_filter {keep : Char → Bool} (h : ∀ c, keep c = false → isBlank c = true)
    (chars : List Char) :
    (chars.filter keep).dropWhile isBlank = (chars.dropWhile isBlank).filter keep := by
  have hblank : (fun c => !keep c || isBlank c) = isBlank := by
    funext c
    cases hkeep : keep c with
    | true => rfl
    | false => exact (h c hkeep).symm
  rw [List.dropWhile_filter, hblank]

/-- Removing characters that are blanks anyway and trimming commute. -/
theorem trimBlanks_filter {keep : Char → Bool} (h : ∀ c, keep c = false → isBlank c = true)
    (chars : List Char) : trimBlanks (chars.filter keep) = (trimBlanks chars).filter keep := by
  rw [trimBlanks, trimBlanks, dropWhile_filter h, ← List.filter_reverse, dropWhile_filter h,
    List.filter_reverse]

/-- Dropping the blanks in front stops at a visible character. -/
theorem dropWhile_visible {c : Char} (h : isBlank c = false) (before after : List Char) :
    (before ++ c :: after).dropWhile isBlank = before.dropWhile isBlank ++ c :: after := by
  have hstop : (c :: after).dropWhile isBlank = c :: after :=
    List.dropWhile_cons_of_neg (by rw [h]; exact Bool.false_ne_true)
  rw [List.dropWhile_append, hstop]
  split
  · next hbefore => rw [List.isEmpty_iff.mp hbefore, List.nil_append]
  · rfl

/-- Trimming leaves a visible character where it is and takes blanks from either side of it. -/
theorem trimBlanks_visible {c : Char} (h : isBlank c = false) (before after : List Char) :
    trimBlanks (before ++ c :: after) =
      before.dropWhile isBlank ++ c :: (after.reverse.dropWhile isBlank).reverse := by
  rw [trimBlanks, dropWhile_visible h, List.reverse_append, List.reverse_cons, List.append_assoc,
    List.singleton_append, dropWhile_visible h]
  simp

/-- Whatever stands between two visible characters is not trimmed. -/
theorem trimBlanks_between {first last : Char} (hfirst : isBlank first = false)
    (hlast : isBlank last = false) (before between after : List Char) :
    trimBlanks (before ++ first :: (between ++ last :: after)) =
      trimBlanks (before ++ [first]) ++ between ++ trimBlanks (last :: after) := by
  have hend : trimBlanks (last :: after) = last :: (after.reverse.dropWhile isBlank).reverse :=
    trimBlanks_visible hlast [] after
  have hback : (between ++ last :: after).reverse.dropWhile isBlank =
      after.reverse.dropWhile isBlank ++ last :: between.reverse := by
    rw [List.reverse_append, List.reverse_cons, List.append_assoc, List.singleton_append,
      dropWhile_visible hlast]
  rw [trimBlanks_visible hfirst, trimBlanks_visible hfirst, hend, hback]
  simp

end Text

namespace Hex

/-- It makes no difference whether spaces are removed before or after trimming. -/
theorem normalize_eq_trim (text : String) :
    normalize text = Text.trim (String.ofList (text.toList.filter (· != ' '))) := by
  have hspace : ∀ c, (c != ' ') = false → Text.isBlank c = true := by
    intro c hc
    rw [bne_eq_false_iff_eq.mp hc]
    rfl
  rw [normalize, Text.trim, String.toList_ofList, Text.trimBlanks_filter hspace]

/-- Spacing out does not change the normal spelling. -/
theorem normalize_eq_of_spaced {text spaced : String}
    (h : Text.Spaced text.toList spaced.toList) : normalize spaced = normalize text := by
  rw [normalize_eq_trim, normalize_eq_trim, h.filter_eq]

/-- Neither do blanks at the ends. -/
theorem normalize_between_blanks {front back : List Char}
    (hfront : ∀ c ∈ front, Text.isBlank c = true) (hback : ∀ c ∈ back, Text.isBlank c = true)
    (chars : List Char) :
    normalize (String.ofList (front ++ chars ++ back)) = normalize (String.ofList chars) := by
  rw [normalize, normalize, String.toList_ofList, String.toList_ofList,
    Text.trimBlanks_append_right hback, Text.trimBlanks_append_left hfront]

/-- The normal spelling is its own normal spelling. -/
theorem normalize_normalize (text : String) : normalize (normalize text) = normalize text := by
  -- The trimmed text is the normal spelling spaced out, and trimming it again does nothing.
  have hspaced : Text.Spaced (normalize text).toList (Text.trim text).toList := by
    rw [normalize, Text.trim, String.toList_ofList, String.toList_ofList]
    exact Text.spaced_filter _
  rw [← normalize_eq_of_spaced hspaced, Text.trim, normalize, normalize, String.toList_ofList,
    Text.trimBlanks_trimBlanks]

/-- Between two visible characters nothing but spaces is lost. -/
theorem exists_spaced_between {first last : Char} (hfirst : Text.isBlank first = false)
    (hlast : Text.isBlank last = false) (before between after : List Char) :
    ∃ kept, Text.Spaced kept between ∧ ' ' ∉ kept ∧
      (normalize (String.ofList (before ++ first :: (between ++ last :: after)))).toList =
        (normalize (String.ofList (before ++ [first]))).toList ++ kept ++
          (normalize (String.ofList (last :: after))).toList := by
  refine ⟨between.filter (· != ' '), Text.spaced_filter between, by simp, ?_⟩
  simp only [normalize, String.toList_ofList]
  rw [Text.trimBlanks_between hfirst hlast, List.filter_append, List.filter_append]

/-- Bytes are read from the normal spelling as from the text itself. -/
theorem decode_normalize (text : String) : decode (normalize text) = decode text := by
  rw [decode, decode, normalize_normalize]

end Hex

/-- A key pair is read from the normal spelling as from the text itself. -/
theorem KeyPair.ofSeedHex_normalize (text : String) :
    ofSeedHex (Hex.normalize text) = ofSeedHex text := by
  rw [ofSeedHex, ofSeedHex, Hex.normalize_normalize]

/-- The normal spelling does not depend on how a text is spaced out or which blanks are around it;
trimming may come before the removal of spaces or after it. Of what stands between two visible
characters only spaces are lost. And whatever is read from a text, be it bytes, an address, a
signature, a key pair or the error in place of one, is read from its normal spelling too. -/
theorem Hex.spacing_leaves_no_trace (text : String) :
    normalize (normalize text) = normalize text ∧
    (∀ spaced : String, Text.Spaced text.toList spaced.toList →
      normalize spaced = normalize text) ∧
    (∀ front back : List Char, (∀ c ∈ front, Text.isBlank c = true) →
      (∀ c ∈ back, Text.isBlank c = true) →
        normalize (String.ofList (front ++ text.toList ++ back)) = normalize text) ∧
    normalize text = Text.trim (String.ofList (text.toList.filter (· != ' '))) ∧
    (∀ (before between after : List Char) (first last : Char),
      text.toList = before ++ first :: (between ++ last :: after) →
      Text.isBlank first = false → Text.isBlank last = false →
        ∃ kept, Text.Spaced kept between ∧ ' ' ∉ kept ∧
          (normalize text).toList =
            (normalize (String.ofList (before ++ [first]))).toList ++ kept ++
              (normalize (String.ofList (last :: after))).toList) ∧
    bytesOfHex (normalize text) = bytesOfHex text ∧
    Address.ofHex (normalize text) = Address.ofHex text ∧
    Signature.ofHex (normalize text) = Signature.ofHex text ∧
    KeyPair.ofSeedHex (normalize text) = KeyPair.ofSeedHex text := by
  have hdecode := decode_normalize text
  refine ⟨normalize_normalize text, ?_, ?_, normalize_eq_trim text, ?_, ?_, ?_, ?_,
    KeyPair.ofSeedHex_normalize text⟩
  · intro spaced h
    exact normalize_eq_of_spaced h
  · intro front back hfront hback
    rw [normalize_between_blanks hfront hback, String.ofList_toList]
  · intro before between after first last htext hfirst hlast
    rw [← String.ofList_toList (s := text), htext]
    exact exists_spaced_between hfirst hlast before between after
  · rw [bytesOfHex, bytesOfHex, hdecode]
  · rw [Address.ofHex, Address.ofHex, FixedBytes.ofHex_eq_of_decode_eq hdecode]
  · rw [Signature.ofHex, Signature.ofHex, FixedBytes.ofHex_eq_of_decode_eq hdecode]

/-- A no-break space between two digits stays, however the text is spaced out and whichever blanks
are put around it. -/
theorem Hex.spacing_leaves_no_trace_noBreak :
    normalize " \t 1 \u00a0 2 \n" = normalize "\t1\u00a02\n" ∧
    normalize "\u2003\r\t1\u00a02\n\u3000" = normalize "\t1\u00a02\n" ∧
    '\u00a0' ∈ (normalize "\t1\u00a02\n").toList ∧
    bytesOfHex (normalize "\t1\u00a02\n") = bytesOfHex "\t1\u00a02\n" := by
  obtain ⟨-, hspaced, hblanks, -, hbetween, hbytes, -⟩ := spacing_leaves_no_trace "\t1\u00a02\n"
  refine ⟨?_, ?_, ?_, hbytes⟩
  · apply hspaced
    exact .space (.keep '\t' (.space (.keep '1' (.space (.keep '\u00a0' (.space (.keep '2' (.space
      (.keep '\n' .nil)))))))))
  · exact hblanks ['\u2003', '\r'] ['\u3000'] (List.all_eq_true.mp rfl) (List.all_eq_true.mp rfl)
  · obtain ⟨kept, hkept, -, htext⟩ := hbetween ['\t'] ['\u00a0'] ['\n'] '1' '2' rfl rfl rfl
    cases hkept with
    | keep c hrest =>
      rw [htext]
      simp

end OfflineSigner
