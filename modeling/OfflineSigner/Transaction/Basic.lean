import OfflineSigner.Address
import OfflineSigner.Asset.Density
import OfflineSigner.Asset.Extra
import OfflineSigner.ChainScope

/-!
# Transactions

A transaction moves an amount to another account or does something to an asset. Both kinds have a
sender, a fee, a nonce and a scope.
-/

namespace OfflineSigner

/-- An amount that goes from the sender to a recipient. The sender signs it and pays the fee. -/
structure Transfer where
  sender : Address
  recipient : Address
  amount : UInt64
  fee : UInt64
  nonce : UInt64
  scope : ChainScope
deriving DecidableEq

/-- An action on an asset. -/
structure AssetTransaction where
  sender : Address
  action : AssetAction
  assetId : AssetId
  owner : Address
  density : Density
  /-- Auxiliary data, which may belong to another action. -/
  extra : AssetExtra
  fee : UInt64
  nonce : UInt64
  scope : ChainScope
deriving DecidableEq

/-- A transaction of either kind. -/
inductive Transaction where
  | transfer (content : Transfer)
  | asset (content : AssetTransaction)
deriving DecidableEq

namespace Transfer

/-- A transfer to a recipient given as hexadecimal text. -/
def toHexRecipient (sender : Address) (recipient : String) (amount fee nonce : UInt64)
    (scope : ChainScope) : Except TransactionError Transfer := do
  let recipient ← TransactionError.liftValue (Address.ofHex recipient)
  return ⟨sender, recipient, amount, fee, nonce, scope⟩

end Transfer

namespace AssetTransaction

/-- The creation of an asset that the sender owns. -/
def create (sender : Address) (assetId : AssetId) (density : Density) (fee nonce : UInt64)
    (scope : ChainScope) : AssetTransaction :=
  ⟨sender, .create, assetId, sender, density, .none, fee, nonce, scope⟩

/-- The auxiliary bytes that are signed. -/
def extraBytes (asset : AssetTransaction) : List UInt8 :=
  asset.extra.bytesFor asset.action

end AssetTransaction

namespace Transaction

/-- The name of the kind, as it stands in front of the signed bytes and in JSON. -/
def kind : Transaction → String
  | transfer _ => "Transfer"
  | asset _ => "MistbornAsset"

/-- The account that signs. -/
def sender : Transaction → Address
  | transfer content => content.sender
  | asset content => content.sender

/-- The fee. -/
def fee : Transaction → UInt64
  | transfer content => content.fee
  | asset content => content.fee

/-- The sender's counter. -/
def nonce : Transaction → UInt64
  | transfer content => content.nonce
  | asset content => content.nonce

/-- The scope. -/
def scope : Transaction → ChainScope
  | transfer content => content.scope
  | asset content => content.scope

end Transaction

end OfflineSigner
