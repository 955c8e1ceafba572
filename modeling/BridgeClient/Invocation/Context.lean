import BridgeClient.Ledger.Keypair
import BridgeClient.Ledger.Message

set_option autoImplicit false

/-! The program that is invoked, and who signs an invocation. -/
namespace BridgeClient

/-- A program and the accounts that every call of it carries. -/
structure ProgramTarget where
  program : Key
  dataAccount : Key
  multisig : Option Key
deriving DecidableEq

/-- A further party that signs, with the roles of its account entry. Only entries on the party's own
key are modelled. -/
structure AuxiliarySigner (K : Type) where
  key : K
  isSigner : Bool
  isWritable : Bool

namespace AuxiliarySigner

variable {K : Type}

/-- An oracle or consul: signs, and is not written to. -/
def oracle (key : K) : AuxiliarySigner K := ⟨key, true, false⟩

variable [SigningKey K]

def publicKey (signer : AuxiliarySigner K) : Key := SigningKey.publicKey signer.key

def accountMeta (signer : AuxiliarySigner K) : AccountMeta :=
  ⟨signer.publicKey, signer.isSigner, signer.isWritable⟩

end AuxiliarySigner

/-- Who signs one invocation, and the accounts it carries besides. The primary pays the fee. -/
structure CallContext (K : Type) where
  primary : K
  signers : List (AuxiliarySigner K)
  extra : List AccountMeta

namespace CallContext

variable {K : Type}

/-- The primary alone. -/
def new (primary : K) : CallContext K := ⟨primary, [], []⟩

variable [SigningKey K]

def primaryKey (context : CallContext K) : Key := SigningKey.publicKey context.primary

/-- The accounts of every instruction: primary, data account, multisig account if there is one,
auxiliary signers, extra accounts. -/
def accounts (context : CallContext K) (target : ProgramTarget) : List AccountMeta :=
  AccountMeta.readOnly context.primaryKey true ::
    AccountMeta.writable target.dataAccount false ::
      (target.multisig.toList.map (fun key => AccountMeta.writable key false)
        ++ (context.signers.map AuxiliarySigner.accountMeta ++ context.extra))

def describeAccount (account : AccountMeta) : String :=
  "AccountMeta \x7b pubkey: " ++ account.key.describe
    ++ ", is_signer: " ++ (if account.isSigner then "true" else "false")
    ++ ", is_writable: " ++ (if account.isWritable then "true" else "false") ++ " \x7d"

/-- The parties and accounts, without any secret. -/
def describe (context : CallContext K) : String :=
  "CallContext \x7b primary: " ++ context.primaryKey.describe
    ++ ", signers: [" ++ ", ".intercalate (context.signers.map fun s => s.publicKey.describe)
    ++ "], extra_meta: [" ++ ", ".intercalate (context.extra.map describeAccount) ++ "] \x7d"

end CallContext

/-- What an accepted transaction is reported as. -/
structure CommandResponse where
  /-- Hex of the signed message. -/
  serializedMessage : String
  /-- The signature the node returned. -/
  txSignature : String
deriving DecidableEq

end BridgeClient
