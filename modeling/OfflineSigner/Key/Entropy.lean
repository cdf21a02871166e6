import OfflineSigner.Bytes.Fixed
import OfflineSigner.Key.Error

/-!
# Sources of seeds

A source has a state and is asked to fill a buffer with a seed. It does so or fails, and either way
leaves something in the buffer and a new state. A cycle of seeds hands out a fixed list over and
over; its place is kept in a counter of 64 bits, which starts again at zero after its last value,
and an empty cycle fails before it touches the buffer.
-/

namespace OfflineSigner

/-- The secret from which a key pair is derived. -/
abbrev Seed := FixedBytes 32

/-- A source of seeds whose state has type `σ`. -/
structure Entropy (σ : Type) where
  /-- How filling a buffer comes out, what the buffer holds then, and the state after it. -/
  fill : Seed → σ → (Except KeyError Unit × Seed) × σ

/-- A list of seeds and the number of draws made so far, in 64 bits. -/
structure SeedCycle where
  /-- The seeds in the order in which they are handed out. -/
  seeds : List Seed
  /-- The number of draws so far, modulo `2^64`. -/
  drawn : UInt64
deriving DecidableEq

namespace SeedCycle

/-- A cycle at its beginning. -/
def ofList (seeds : List Seed) : SeedCycle := ⟨seeds, 0⟩

/-- The cycle of a single seed. -/
def constant (seed : Seed) : SeedCycle := ofList [seed]

/-- Fills a buffer with the next seed. -/
def fill (buffer : Seed) (cycle : SeedCycle) : (Except KeyError Unit × Seed) × SeedCycle :=
  match cycle.seeds[cycle.drawn.toNat % cycle.seeds.length]? with
  | some seed => ((.ok (), seed), { cycle with drawn := cycle.drawn + 1 })
  | none => ((.error (.entropy "null entropy has no seeds"), buffer), cycle)

/-- Cycles as a source. -/
def source : Entropy SeedCycle := ⟨fill⟩

end SeedCycle

end OfflineSigner
