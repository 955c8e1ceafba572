import BridgeClient.Json.Basic

set_option autoImplicit false

/-!
Types with a JSON form, and reading members of an object at the type that is wanted. Numbers of 64 bits
and more are written as text, since not every reader of JSON holds them exactly.
-/
namespace BridgeClient

/-- Types whose values have a JSON form. -/
class ToJson (α : Type) where
  toJson : α → Json

/-- Types whose values can be read from JSON. The error says what was wrong. -/
class FromJson (α : Type) where
  fromJson : Json → Except String α

export ToJson (toJson)
export FromJson (fromJson)

instance : ToJson Json := ⟨id⟩
instance : ToJson String := ⟨Json.ofString⟩
instance : ToJson Bool := ⟨.bool⟩
instance : ToJson Nat := ⟨Json.ofNat⟩
instance : ToJson Int := ⟨Json.ofInt⟩
instance : ToJson UInt8 := ⟨fun byte => toJson byte.toNat⟩
instance : ToJson UInt64 := ⟨fun word => toJson (toString word.toNat)⟩

instance {α : Type} [ToJson α] : ToJson (Option α) := ⟨fun value? => (value?.map toJson).getD .null⟩
instance {α : Type} [ToJson α] : ToJson (List α) := ⟨fun values => .array (values.map toJson)⟩

instance : FromJson Json := ⟨.ok⟩

instance : FromJson String := ⟨fun value =>
  match value.toString? with
  | some text => .ok text
  | none => .error "string expected"⟩

instance : FromJson Bool := ⟨fun
  | .bool value => .ok value
  | _ => .error "boolean expected"⟩

instance : FromJson Nat := ⟨fun
  | .number number =>
      match number.toInt? with
      | some (.ofNat value) => .ok value
      | _ => .error "natural number expected"
  | _ => .error "natural number expected"⟩

instance {α : Type} [FromJson α] : FromJson (List α) := ⟨fun
  | .array elements => elements.mapM fromJson
  | _ => .error "array expected"⟩

namespace Json

/-- A member of an object. -/
def member {α : Type} [ToJson α] (name : String) (value : α) : String × Json :=
  (name, toJson value)

/-- A number of any size, as text. -/
def large (value : Nat) : Json := toJson (toString value)

/-- The first member of that name, unless it is null. -/
def get? (value : Json) (name : String) : Option Json :=
  match value with
  | object members =>
      match members.find? fun entry => entry.1.decode? == some name with
      | some (_, null) => none
      | entry? => entry?.map Prod.snd
  | _ => none

variable {α : Type} [FromJson α]

/-- A member that has to be there. -/
def get (value : Json) (name : String) : Except String α :=
  match value.get? name with
  | some found => fromJson found
  | none => .error ("missing " ++ name)

/-- A member that may be absent. -/
def getOption (value : Json) (name : String) : Except String (Option α) :=
  match value.get? name with
  | some found => (fromJson found).map some
  | none => .ok none

/-- A member with a value for its absence. -/
def getD (value : Json) (name : String) (absent : α) : Except String α :=
  (value.getOption name).map (·.getD absent)

/-- One of some named choices. -/
def choice {β : Type} (choices : List (String × β)) (value : Json) : Except String β := do
  let name ← fromJson value
  match choices.lookup name with
  | some chosen => .ok chosen
  | none => .error ("unknown " ++ name)

end Json
end BridgeClient
