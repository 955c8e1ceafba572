import BridgeClient.Ledger.Derived
import BridgeClient.Ledger.Message

set_option autoImplicit false

/-!
Token accounts as the ledger stores them, in 165 bytes:

  mint 32, owner 32, amount 8, delegate 4 + 32, state 1, native reserve 4 + 8, delegated amount 8,
  close authority 4 + 32

Numbers are little endian. An optional value is a tag of four bytes, 0 or 1, and a payload that is
present in both cases.
-/
namespace BridgeClient

namespace Programs

def system : Key := Key.fill 0

def token : Key := Key.ofNat 0x06ddf6e1d765a193d9cbe146ceeb79ac1cb485ed5f5b37913a8cf5857eff00a9

def associatedToken : Key :=
  Key.ofNat 0x8c97258f4e2489f1bb3d1029148e0d830b5a1399daff1084048e7bd8dbe9f859

def rent : Key := Key.ofNat 0x06a7d517192c5c51218cc94c3d4af17f58daee089ba1fd44e3dbd98a00000000

end Programs

inductive TokenAccountState where
  | uninitialized
  | initialized
  | frozen
deriving DecidableEq

namespace TokenAccountState

def name : TokenAccountState → String
  | uninitialized => "Uninitialized"
  | initialized => "Initialized"
  | frozen => "Frozen"

def tag : TokenAccountState → UInt8
  | uninitialized => 0
  | initialized => 1
  | frozen => 2

def ofTag? (tag : UInt8) : Option TokenAccountState :=
  if tag = 0 then some uninitialized
  else if tag = 1 then some initialized
  else if tag = 2 then some frozen
  else none

end TokenAccountState

structure TokenAccount where
  mint : Key
  owner : Key
  amount : UInt64
  delegate : Option Key
  state : TokenAccountState
  isNative : Option UInt64
  delegatedAmount : UInt64
  closeAuthority : Option Key
deriving DecidableEq

namespace TokenAccount

def packedLength : Nat := 165

/-- The 165 bytes of an account, field by field. -/
structure Fields where
  mint : FixedBytes 32
  owner : FixedBytes 32
  amount : FixedBytes 8
  delegateTag : FixedBytes 4
  delegate : FixedBytes 32
  state : FixedBytes 1
  nativeTag : FixedBytes 4
  native : FixedBytes 8
  delegatedAmount : FixedBytes 8
  closeTag : FixedBytes 4
  closeAuthority : FixedBytes 32

/-- `n` bytes from an offset, if the string has them. -/
def slice? (bytes : Bytes) (offset n : Nat) : Option (FixedBytes n) :=
  FixedBytes.ofList? n ((bytes.drop offset).take n)

/-- The fields at the front of a string, if it is long enough. -/
def Fields.read? (bytes : Bytes) : Option Fields := do
  return {
    mint := ← slice? bytes 0 32
    owner := ← slice? bytes 32 32
    amount := ← slice? bytes 64 8
    delegateTag := ← slice? bytes 72 4
    delegate := ← slice? bytes 76 32
    state := ← slice? bytes 108 1
    nativeTag := ← slice? bytes 109 4
    native := ← slice? bytes 113 8
    delegatedAmount := ← slice? bytes 121 8
    closeTag := ← slice? bytes 129 4
    closeAuthority := ← slice? bytes 133 32 }

def word (bytes : FixedBytes 8) : UInt64 := UInt64.ofNat (Bytes.ofLittleEndian bytes.toList)

/-- A tag and the payload behind it. -/
def optional {α : Type} (tag : FixedBytes 4) (payload : α) : Except BridgeError (Option α) :=
  if tag.toList = [0, 0, 0, 0] then .ok none
  else if tag.toList = [1, 0, 0, 0] then .ok (some payload)
  else
    let shown := "[" ++ ", ".intercalate (tag.toList.map fun b => toString b.toNat) ++ "]"
    .error (.serialization s!"invalid COption tag {shown}")

/-- The account in the first 165 bytes of a string; the state is looked at before the tags. -/
def unpack (bytes : Bytes) : Except BridgeError TokenAccount :=
  match Fields.read? bytes with
  | none => .error (.invalidFormat packedLength bytes.length)
  | some fields => do
      let stateTag := Bytes.ofLittleEndian fields.state.toList
      let state ←
        match TokenAccountState.ofTag? (UInt8.ofNat stateTag) with
        | some state => Except.ok state
        | none => Except.error (BridgeError.serialization s!"unknown token account state {stateTag}")
      let delegate ← optional fields.delegateTag (Key.mk fields.delegate)
      let isNative ← optional fields.nativeTag (word fields.native)
      let closeAuthority ← optional fields.closeTag (Key.mk fields.closeAuthority)
      return {
        mint := ⟨fields.mint⟩
        owner := ⟨fields.owner⟩
        amount := word fields.amount
        delegate
        state
        isNative
        delegatedAmount := word fields.delegatedAmount
        closeAuthority }

/-- The payloads of absent options. -/
structure Filler where
  delegate : FixedBytes 32
  native : FixedBytes 8
  closeAuthority : FixedBytes 32

/-- An optional value as tag and payload. -/
def packOptional {n : Nat} (value : Option (FixedBytes n)) (filler : FixedBytes n) : Bytes :=
  match value with
  | none => [0, 0, 0, 0] ++ filler.toList
  | some payload => [1, 0, 0, 0] ++ payload.toList

def wordBytes (value : UInt64) : FixedBytes 8 := ⟨Bytes.littleEndian 8 value.toNat, by simp⟩

/-- The 165 bytes of an account, with the given payloads behind absent options. -/
def pack (account : TokenAccount) (filler : Filler) : Bytes :=
  account.mint.bytes.toList ++ (account.owner.bytes.toList ++ ((wordBytes account.amount).toList ++
    (packOptional (account.delegate.map Key.bytes) filler.delegate ++ (account.state.tag ::
      (packOptional (account.isNative.map wordBytes) filler.native ++
        ((wordBytes account.delegatedAmount).toList ++
          packOptional (account.closeAuthority.map Key.bytes) filler.closeAuthority))))))

/-- What reports show of an account. -/
instance : ToJson TokenAccount := ⟨fun account =>
  Json.ofMembers
    [Json.member "mint" account.mint, Json.member "owner" account.owner,
      Json.member "amount" account.amount.toNat, Json.member "state" account.state.name,
      Json.member "is_native" (account.isNative.map UInt64.toNat),
      Json.member "delegated_amount" account.delegatedAmount.toNat]⟩

end TokenAccount

/-- The token account that belongs to `owner` for `mint`. -/
def associatedTokenAddress (scheme : Derivation) (owner mint : Key) : Except BridgeError Key :=
  (scheme.find
    [owner.bytes.toList, Programs.token.bytes.toList, mint.bytes.toList]
    Programs.associatedToken).map Prod.fst

/-- The instruction that creates that account for `wallet`, paid by `funding`, and its address. -/
def createAssociatedTokenAccount (scheme : Derivation) (funding wallet mint : Key) :
    Except BridgeError (Instruction × Key) := do
  let account ← associatedTokenAddress scheme wallet mint
  return (
    { program := Programs.associatedToken
      accounts := [
        .writable funding true,
        .writable account false,
        .readOnly wallet false,
        .readOnly mint false,
        .readOnly Programs.system false,
        .readOnly Programs.token false,
        .readOnly Programs.rent false]
      data := [] },
    account)

end BridgeClient
