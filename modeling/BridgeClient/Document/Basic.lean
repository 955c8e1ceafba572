import BridgeClient.Json.Basic
import BridgeClient.Number.Binary64

set_option autoImplicit false

/-! What a data text holds, in whatever notation it was written. What a date is makes no difference. -/
namespace BridgeClient

inductive Document where
  | null
  | flag (value : Bool)
  | integer (value : Int)
  /-- A number in JSON that is no whole number of 64 bits. -/
  | number (written : Json.Number)
  | text (value : String)
  /-- A floating-point number in TOML. -/
  | fraction (value : Binary64)
  | date
  /-- A text in JSON that stands for no characters, or a table in which one is a name. Only a reader
  that ignores it gets past it. -/
  | unreadable
  | list (elements : List Document)
  | table (entries : List (String × Document))

namespace Document

/-- A number in JSON. Whole numbers of 64 bits are read as such, whether signed or not. -/
def ofNumber (written : Json.Number) : Document :=
  match written.toInt? with
  | some value =>
      if -0x8000000000000000 ≤ value && value < 0x10000000000000000 then integer value
      else number written
  | none => number written

mutual

/-- A value written as JSON. -/
def ofJson : Json → Document
  | .null => null
  | .bool value => flag value
  | .number written => ofNumber written
  | .string value =>
      match value.decode? with
      | some decoded => text decoded
      | none => unreadable
  | .array elements => list (ofElements elements)
  | .object members =>
      match ofMembers members with
      | some entries => table entries
      | none => unreadable

def ofElements : List Json → List Document
  | [] => []
  | element :: rest => ofJson element :: ofElements rest

/-- The members, if every name can be read. -/
def ofMembers : List (Json.Text × Json) → Option (List (String × Document))
  | [] => some []
  | (name, value) :: rest =>
      match name.decode?, ofMembers rest with
      | some name, some entries => some ((name, ofJson value) :: entries)
      | _, _ => none

end

end Document
end BridgeClient
