import OfflineSigner.Proofs.Key.SeedText
import OfflineSigner.Proofs.Wallet.Builder
import OfflineSigner.Wallet.Keys
import Mathlib.Data.List.Forall2

/-!
# Making and restoring key pairs

There are four ways to come by a key pair: from a seed, from the text of a seed, from a backup, and
from a source of seeds. All of them derive the address from the seed, and a source that fails is
reported as it is. A backup is the canonical text of the seed, and it need not be typed as it was
written down: in any case of its letters, with spaces anywhere and between any blanks it restores
the same key pair.
-/

namespace OfflineSigner

namespace Hex

/-- A text spells a canonical text anew: each digit is there in one of its cases, then spaces are put
in anywhere, and blanks are put around it. -/
def IsRespelling (canonical text : String) : Prop :=
  ∃ cased spaced front back : List Char,
    List.Forall₂ (fun digit other => other = digit ∨ other = digit.toUpper) canonical.toList cased ∧
    Text.Spaced cased spaced ∧
    (∀ c ∈ front, Text.isBlank c = true) ∧ (∀ c ∈ back, Text.isBlank c = true) ∧
    text = String.ofList (front ++ spaced ++ back)

/-- In lower case a digit of either case is the same digit, and neither is a blank. -/
theorem lowerAscii_digit : ∀ value < 16,
    Text.lowerAscii (digit value) = digit value ∧
    Text.lowerAscii (digit value).toUpper = digit value ∧
    Text.isBlank (digit value).toUpper = false := by
  decide

/-- Digits in either case have no blank among them, and in lower case they are the same digits. -/
theorem map_lowerAscii_of_forall₂ {canonical cased : List Char}
    (h : List.Forall₂ (fun digit other => other = digit ∨ other = digit.toUpper) canonical cased)
    (hdigits : ∀ c ∈ canonical, ∃ value < 16, c = digit value) :
    (∀ c ∈ cased, Text.isBlank c = false) ∧ cased.map Text.lowerAscii = canonical := by
  induction h with
  | nil => simp
  | cons hcase _ ih =>
    obtain ⟨⟨value, hvalue, rfl⟩, hrest⟩ := List.forall_mem_cons.mp hdigits
    obtain ⟨hblanks, hlower⟩ := ih hrest
    obtain ⟨hself, hupper, hupperBlank⟩ := lowerAscii_digit value hvalue
    rw [List.forall_mem_cons, List.map_cons, hlower]
    rcases hcase with rfl | rfl
    · exact ⟨⟨isBlank_digit value hvalue, hblanks⟩, by rw [hself]⟩
    · exact ⟨⟨hupperBlank, hblanks⟩, by rw [hupper]⟩

/-- A text that spells the written form of some bytes anew is read as these bytes. -/
theorem IsRespelling.decode_eq {bytes : List UInt8} {text : String}
    (h : IsRespelling (encode bytes) text) : decode text = .ok bytes := by
  obtain ⟨cased, spaced, front, back, hcased, hspaced, hfront, hback, rfl⟩ := h
  rw [encode, String.toList_ofList] at hcased
  obtain ⟨hblanks, hlower⟩ :=
    map_lowerAscii_of_forall₂ hcased fun _ hc => exists_digit_of_mem_digits hc
  have hspaced' : Text.Spaced (String.ofList cased).toList (String.ofList spaced).toList := by
    rwa [String.toList_ofList, String.toList_ofList]
  rw [decode_eq_ok_iff, normalize_between_blanks hfront hback, normalize_eq_of_spaced hspaced',
    normalize_eq_self hblanks, Text.toLowerAscii, String.toList_ofList, hlower, encode]

end Hex

namespace KeyPair

/-- The key pair holds a seed, and its address is the public key of that seed. -/
def Holds (pair : KeyPair) (seed : Seed) : Prop :=
  pair.seed = seed ∧ pair.address.bytes = Ed25519.publicKey seed

/-- The key pair of a seed holds it, and no other key pair does. -/
theorem holds_iff {pair : KeyPair} {seed : Seed} : pair.Holds seed ↔ pair = ofSeed seed := by
  constructor
  · rintro ⟨hseed, -⟩
    exact ext hseed
  · rintro rfl
    exact ⟨rfl, rfl⟩

/-- A key pair is read from the texts that spell the seed it holds. -/
theorem ofSeedHex_eq_ok_iff_holds {text : String} {pair : KeyPair} :
    ofSeedHex text = .ok pair ↔ ∃ seed : Seed, seed.IsSpelledBy text ∧ pair.Holds seed := by
  rw [ofSeedHex_eq_ok_iff]
  constructor
  · intro h
    exact ⟨pair.seed, h, rfl, pair.address_eq⟩
  · rintro ⟨seed, h, rfl, -⟩
    exact h

/-- A source of seeds makes the key pair of the seed that it fills zeros with. -/
theorem generate_eq_ok_iff {σ : Type} {source : Entropy σ} {state next : σ} {pair : KeyPair} :
    generate source state = (.ok pair, next) ↔
      ∃ seed, source.fill (.replicate 32 0) state = ((.ok (), seed), next) ∧ pair.Holds seed := by
  rw [generate]
  rcases source.fill (.replicate 32 0) state with ⟨⟨outcome, left⟩, after⟩
  cases outcome <;> simp [holds_iff, eq_comm, and_assoc, and_comm]

/-- The failure of a source of seeds is passed on, whatever it leaves behind, and no key pair is
made. -/
theorem generate_eq_error_iff {σ : Type} {source : Entropy σ} {state next : σ} {error : KeyError} :
    generate source state = (.error error, next) ↔
      ∃ left, source.fill (.replicate 32 0) state = ((.error error, left), next) := by
  rw [generate]
  rcases source.fill (.replicate 32 0) state with ⟨⟨outcome, left⟩, after⟩
  cases outcome <;> simp

/-- The canonical text of a seed has 64 digits. -/
theorem isCanonical_seedHex (pair : KeyPair) : Hex.IsCanonical 64 pair.seedHex := by
  have htext := Hex.isCanonical_encode pair.seed.toList
  rwa [pair.seed.length_toList] at htext

/-- Every way to come by a key pair derives its address from the seed it holds: from a seed, from the
text of one, from a backup, and from a source, which fills zeros with a seed and whose failure is
passed on in place of a key pair. The canonical text of the seed has 64 digits, and however it is
spelled anew it is accepted and gives back the seed, the address and every signature. -/
theorem backups_restore :
    (∀ seed, (ofSeed seed).Holds seed) ∧
    (∀ text pair, ofSeedHex text = .ok pair ↔
      ∃ seed : Seed, seed.IsSpelledBy text ∧ pair.Holds seed) ∧
    (∀ text pair, Wallet.importSeed text = .ok pair ↔
      ∃ seed : Seed, seed.IsSpelledBy text ∧ pair.Holds seed) ∧
    (∀ (σ : Type) (source : Entropy σ) (state next : σ),
      (∀ pair, generate source state = (.ok pair, next) ↔
        ∃ seed, source.fill (.replicate 32 0) state = ((.ok (), seed), next) ∧ pair.Holds seed) ∧
      ∀ error, generate source state = (.error error, next) ↔
        ∃ left, source.fill (.replicate 32 0) state = ((.error error, left), next)) ∧
    ∀ pair : KeyPair, Hex.IsCanonical 64 pair.seedHex ∧
      ∀ text, Hex.IsRespelling pair.seedHex text →
        ∃ restored, ofSeedHex text = .ok restored ∧ Wallet.importSeed text = .ok restored ∧
          restored.Holds pair.seed ∧ restored.address = pair.address ∧
          ∀ message, restored.sign message = pair.sign message := by
  refine ⟨?_, ?_, ?_, ?_, ?_⟩
  · intro seed
    exact ⟨rfl, rfl⟩
  · intro text pair
    exact ofSeedHex_eq_ok_iff_holds
  · intro text pair
    rw [Wallet.importSeed, WalletError.liftKey_eq_ok_iff, ofSeedHex_eq_ok_iff_holds]
  · intro σ source state next
    exact ⟨fun pair => generate_eq_ok_iff, fun error => generate_eq_error_iff⟩
  · intro pair
    refine ⟨pair.isCanonical_seedHex, ?_⟩
    intro text htext
    have hread : ofSeedHex text = .ok pair := ofSeedHex_eq_ok_iff.mpr htext.decode_eq
    have himport : Wallet.importSeed text = .ok pair := WalletError.liftKey_eq_ok_iff.mpr hread
    exact ⟨pair, hread, himport, ⟨rfl, pair.address_eq⟩, rfl, fun message => rfl⟩

/-- The backup of a seed, typed in mixed case with a space in every byte and between wide blanks. -/
def respelledBackup : String :=
  "\u3000\tA bA bA bA bA bA bA bA bA bA bA bA bA bA bA bA b" ++
    "A bA bA bA bA bA bA bA bA bA bA bA bA bA bA bA b\u2003\n"

/-- It restores the key pair, and an empty cycle of seeds makes none. -/
theorem backups_restore_respelled :
    Hex.IsRespelling (ofSeed (.replicate 32 0xab)).seedHex respelledBackup ∧
    (∃ restored, Wallet.importSeed respelledBackup = .ok restored ∧
      restored.Holds (.replicate 32 0xab)) ∧
    generate SeedCycle.source (.ofList []) =
      (.error (.entropy "null entropy has no seeds"), .ofList []) := by
  have hrespelled : Hex.IsRespelling (ofSeed (.replicate 32 0xab)).seedHex respelledBackup := by
    refine ⟨_, (List.replicate 32 ['A', ' ', 'b']).flatten, ['\u3000', '\t'], ['\u2003', '\n'], ?_,
      Text.spaced_filter _, List.all_eq_true.mp rfl, List.all_eq_true.mp rfl, rfl⟩
    decide +kernel
  obtain ⟨-, -, -, hsource, hbackup⟩ := backups_restore
  obtain ⟨restored, -, himport, hholds, -⟩ := (hbackup _).2 _ hrespelled
  obtain ⟨-, hfails⟩ := hsource _ SeedCycle.source (.ofList []) (.ofList [])
  exact ⟨hrespelled, ⟨restored, himport, hholds⟩, (hfails _).mpr ⟨.replicate 32 0, rfl⟩⟩

end KeyPair

end OfflineSigner
