import OfflineSigner.Key.Pair
import OfflineSigner.Wallet.Error

/-!
# The keys of a wallet

Making, restoring and backing up the key pair of an account.
-/

namespace OfflineSigner.Wallet

/-- A new key pair from the next seed of a source. -/
def newKeyPair {σ : Type} (source : Entropy σ) (state : σ) : Except WalletError KeyPair × σ :=
  let (outcome, next) := KeyPair.generate source state
  (WalletError.liftKey outcome, next)

/-- The key pair of a backup. -/
def importSeed (text : String) : Except WalletError KeyPair :=
  WalletError.liftKey (KeyPair.ofSeedHex text)

/-- The backup of a key pair. -/
def exportSeed (pair : KeyPair) : String := pair.seedHex

end OfflineSigner.Wallet
