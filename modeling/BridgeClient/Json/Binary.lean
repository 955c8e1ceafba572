import BridgeClient.Json.Typed
import BridgeClient.Number.Binary64
import BridgeClient.Text.Hex

set_option autoImplicit false

/-! Bytes in JSON, as hex; of a double, its bits. -/
namespace BridgeClient

instance : ToJson Bytes := ⟨fun bytes => toJson (Hex.encode bytes)⟩

instance {n : Nat} : ToJson (FixedBytes n) := ⟨fun bytes => toJson bytes.toList⟩

instance : ToJson Binary64 := ⟨fun x => toJson (Bytes.bigEndian 8 x.bits.toNat)⟩

end BridgeClient
